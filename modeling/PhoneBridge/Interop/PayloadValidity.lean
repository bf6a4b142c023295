import PhoneBridge.Android.Envelope
import PhoneBridge.Crypto.Cert
import PhoneBridge.Crypto.PairingCode
import PhoneBridge.Proto.ProtocolSchema

/-!
# Payloads under the protocol schema

When an envelope of either side is valid under the schema, by the payload that it carries. Most
payloads name a field that only one payload schema knows; what is left is the range of the values.
The empty payload and the reasons fit several schemas, and the phone writes absent values as nulls.
-/

namespace PhoneBridge.Interop

open Library JsonSchema Proto Schema Crypto

/-! ## Values -/

@[simp]
theorem text_str (low high : Nat) (s : String) :
    text low high (.str s) = (decide (low ≤ s.length) && decide (s.length ≤ high)) := by
  simp [text, allOf, typeString, minLength, maxLength]

@[simp]
theorem text_null (low high : Nat) : text low high .null = false := rfl

@[simp]
theorem ranged_int (low high n : Int) :
    ranged low high (.int n) = (decide (low ≤ n) && decide (n ≤ high)) := by
  simp [ranged, allOf, typeInteger, minimum, maximum]

@[simp]
theorem ranged_null (low high : Int) : ranged low high .null = false := rfl

@[simp]
theorem typeString_str (s : String) : typeString (.str s) = true := rfl

@[simp]
theorem typeInteger_int (n : Int) : typeInteger (.int n) = true := rfl

@[simp]
theorem typeInteger_null : typeInteger .null = false := rfl

@[simp]
theorem typeBoolean_bool (b : Bool) : typeBoolean (.bool b) = true := rfl

/-! ## Envelopes -/

/-- The envelope is valid under the protocol schema. -/
def Valid (json : Json) : Prop := protocol json = true

section Envelopes

variable {freshId ourDeviceId : Uuid} {now : Int64} {kind : MessageType}
  {fields : List (String × Json)}

/-- An envelope of the Rust side is valid when its clock is past the epoch and its payload is. -/
theorem valid_rust_iff
    (h : alternatives.filter (·.admits (fields.map Prod.fst)) = [payloadSchema kind]) :
    Valid (Envelope.new freshId now kind ourDeviceId (.obj fields)).toJson ↔
      0 ≤ now.toInt ∧ (payloadSchema kind).values fields = true := by
  rw [Valid]
  apply (protocol_frame_of_unique h).trans
  apply and_congr_left'
  constructor
  · intro hheader
    exact hheader.time
  · intro htime
    exact ⟨rfl, isUuid_toText freshId, htime, isUuid_toText ourDeviceId⟩

/-- An envelope of the phone is valid when moreover its device id is the text of a UUID. -/
theorem valid_phone_iff {deviceId type : String} (kind : MessageType) (htype : type = kind.asStr)
    (h : alternatives.filter (·.admits (fields.map Prod.fst)) = [payloadSchema kind]) :
    Valid (Android.Envelope.encode
      { id := freshId.toText, ts := now, type, deviceId, payload := .obj fields }) ↔
      (0 ≤ now.toInt ∧ IsUuid deviceId) ∧ (payloadSchema kind).values fields = true := by
  subst htype
  rw [Valid]
  apply (protocol_frame_of_unique h).trans
  apply and_congr_left'
  constructor
  · intro hheader
    exact ⟨hheader.time, hheader.deviceId⟩
  · intro h
    exact ⟨rfl, isUuid_toText freshId, h.1, h.2⟩

end Envelopes

/-! ## The two patterns -/

/-- The code of a challenge is six digits. -/
def IsSixDigits (code : String) : Prop := code.length = 6 ∧ ∀ c ∈ code.toList, c.isDigit = true

/-- Four digits are not six. -/
theorem not_isSixDigits {code : String} (h : IsFourDigits code) :
    ¬ IsSixDigits code := by
  intro hsix
  have hlength : Text.utf8Length code.toList = code.toList.length :=
    Text.utf8Length_of_ascii fun c hc ↦ Text.toNat_lt_of_isDigit (h.2 c hc)
  have hfour := h.1
  rw [hlength, String.length_toList, hsix.1] at hfour
  cases hfour

theorem decimalDigit_eq (c : Char) : decimalDigit c = c.isDigit := by
  rw [Bool.eq_iff_iff, decimalDigit, between_iff, Char.isDigit, Bool.and_eq_true, decide_eq_true_iff,
    decide_eq_true_iff]
  exact Iff.rfl

theorem fits_codePattern {code : String} :
    fits codePattern code.toList = true ↔ IsSixDigits code := by
  simp only [codePattern, fits_replicate, decimalDigit_eq, IsSixDigits, String.length_toList]

theorem upperHexDigit_upper {n : Nat} (h : n < 16) : upperHexDigit (Hex.upper n) = true := by
  interval_cases n <;> decide

/-- Every upper-case digit is the digit of some value. -/
theorem exists_upper {c : Char} (h : upperHexDigit c = true) : ∃ n < 16, Hex.upper n = c := by
  simp only [upperHexDigit, Bool.or_eq_true, between_iff, Char.reduceToNat] at h
  rw [← Char.ofNat_toNat c]
  generalize c.toNat = n at h
  cases h with
  | inl hletter =>
    refine ⟨n - 55, by omega, ?_⟩
    rw [Hex.upper, if_neg (by omega)]
    congr 1
    omega
  | inr hdigit =>
    refine ⟨n - 48, by omega, ?_⟩
    rw [Hex.upper, if_pos (by omega)]
    congr 1
    omega

/-- Two upper-case digits are the pair of a byte. -/
theorem fits_pair {cs : List Char} :
    fits (List.replicate 2 upperHexDigit) cs = true ↔ ∃ b, cs = hexPair b := by
  constructor
  · intro h
    obtain ⟨first, rest, rfl, hfirst, hrest⟩ := fits_cons_left.mp h
    obtain ⟨second, rest, rfl, hsecond, hnil⟩ := fits_cons_left.mp hrest
    obtain ⟨high, hhigh, rfl⟩ := exists_upper hfirst
    obtain ⟨low, hlow, rfl⟩ := exists_upper hsecond
    have hbyte : (UInt8.ofNat (high * 16 + low)).toNat = high * 16 + low := by
      rw [UInt8.toNat_ofNat']
      omega
    have hdiv : (high * 16 + low) / 16 % 16 = high := by omega
    have hmod : (high * 16 + low) % 16 = low := by omega
    refine ⟨UInt8.ofNat (high * 16 + low), ?_⟩
    rw [fits_nil_left.mp hnil, hexPair, hbyte]
    simp only [Hex.digits, hdiv, hmod, List.nil_append, List.cons_append]
  · rintro ⟨b, rfl⟩
    rw [fits_replicate]
    constructor
    · exact length_hexPair b
    · intro c hc
      obtain ⟨n, hn, rfl⟩ := mem_hexPair hc
      exact upperHexDigit_upper hn

/-- Pairs with a colon in front of each. -/
theorem fits_pairs {n : Nat} {cs : List Char} :
    fits (List.replicate n ((· == ':') :: List.replicate 2 upperHexDigit)).flatten cs = true ↔
      ∃ bytes : List UInt8, bytes.length = n ∧ cs = bytes.flatMap fun b ↦ ':' :: hexPair b := by
  induction n generalizing cs with
  | zero => simp +contextual [fits_nil_left, List.length_eq_zero_iff]
  | succ n ih =>
    rw [List.replicate_succ, List.flatten_cons, fits_append]
    constructor
    · rintro ⟨xs, ys, rfl, hxs, hys⟩
      obtain ⟨colon, pair, rfl, hcolon, hpair⟩ := fits_cons_left.mp hxs
      obtain ⟨b, rfl⟩ := fits_pair.mp hpair
      obtain ⟨bytes, rfl, rfl⟩ := ih.mp hys
      refine ⟨b :: bytes, rfl, ?_⟩
      rw [List.flatMap_cons, eq_of_beq hcolon]
    · rintro ⟨bytes, hlength, rfl⟩
      obtain ⟨b, bytes, rfl⟩ := List.exists_cons_of_length_eq_add_one hlength
      refine ⟨':' :: hexPair b, _, List.flatMap_cons .., ?_, ?_⟩
      · exact fits_cons_left.mpr ⟨':', hexPair b, rfl, rfl, fits_pair.mpr ⟨b, rfl⟩⟩
      · exact ih.mpr ⟨bytes, by simpa using hlength, rfl⟩

theorem intercalate_hexPair (b : UInt8) (bytes : List UInt8) :
    [':'].intercalate ((b :: bytes).map hexPair) =
      hexPair b ++ bytes.flatMap fun b ↦ ':' :: hexPair b := by
  induction bytes generalizing b with
  | nil => simp [List.intercalate]
  | cons next bytes ih =>
    rw [List.flatMap_cons, List.cons_append, ← ih next]
    simp [List.intercalate]

/-- The texts of the fingerprint pattern are the fingerprints of the digests. -/
theorem fits_fingerprintPattern {s : String} :
    fits fingerprintPattern s.toList = true ↔ ∃ digest, s = certFingerprint digest := by
  rw [fingerprintPattern, fits_append]
  constructor
  · rintro ⟨xs, ys, htext, hxs, hys⟩
    obtain ⟨b, rfl⟩ := fits_pair.mp hxs
    obtain ⟨bytes, hlength, rfl⟩ := fits_pairs.mp hys
    refine ⟨⟨b :: bytes, by rw [List.length_cons, hlength]⟩, ?_⟩
    rw [← String.toList_inj, toList_certFingerprint, intercalate_hexPair, htext]
  · rintro ⟨digest, rfl⟩
    obtain ⟨b, bytes, hbytes⟩ := List.exists_cons_of_length_eq_add_one digest.length_eq
    have hlength : bytes.length = 31 := by
      have htotal := digest.length_eq
      rw [hbytes] at htotal
      simpa using htotal
    refine ⟨hexPair b, _, ?_, fits_pair.mpr ⟨b, rfl⟩, fits_pairs.mpr ⟨bytes, hlength, rfl⟩⟩
    rw [toList_certFingerprint, hbytes, intercalate_hexPair]

/-! ## Payloads of the Rust side -/

section Rust

variable (freshId ourDeviceId : Uuid) (now : Int64)

theorem valid_pairRequest (ephemeralPubkey : String) :
    Valid (Envelope.new freshId now .devicePairRequest ourDeviceId
      (PairRequest.toValue { ephemeralPubkey })).toJson ↔ 0 ≤ now.toInt := by
  apply (valid_rust_iff rfl).trans
  simp [ObjectSchema.values, payloadSchema, pairRequest, closed]

theorem port_in_range (n : UInt16) :
    (1 ≤ (n.toNat : Int) ∧ (n.toNat : Int) ≤ 65535) ↔ n ≠ 0 := by
  have hlt := n.toNat_lt
  have hzero : n = 0 ↔ n.toNat = 0 := UInt16.toNat_inj.symm
  rw [ne_eq, hzero]
  omega

theorem valid_hello (name pubkey : String) (deviceType : DeviceType) (port : Option UInt16) :
    Valid (Envelope.new freshId now .deviceHello ourDeviceId (DeviceHello.toValue {
      name, deviceType, protocolVersion := 1, pubkey, port, manufacturer := none, model := none
      hardwareId := none })).toJson ↔
      0 ≤ now.toInt ∧ (1 ≤ name.length ∧ name.length ≤ 64) ∧ ∀ n ∈ port, n ≠ 0 := by
  have htype : oneOfTexts ["desktop", "android"] (.str deviceType.asStr) = true := by
    cases deviceType <;> rfl
  have hversion : allOf [typeInteger, enumInt [1]] (.int 1) = true := rfl
  cases port with
  | none =>
    apply (valid_rust_iff rfl).trans
    simp [ObjectSchema.values, payloadSchema, deviceHello, closed, List.lookup_cons, htype, hversion]
  | some n =>
    apply (valid_rust_iff rfl).trans
    simp [ObjectSchema.values, payloadSchema, deviceHello, closed, List.lookup_cons, htype, hversion,
      ← port_in_range]

theorem valid_pairChallenge (ephemeralPubkey code : String) (expiresAt : Int64) :
    Valid (Envelope.new freshId now .devicePairChallenge ourDeviceId
      (PairChallenge.toValue { ephemeralPubkey, code, expiresAt })).toJson ↔
      0 ≤ now.toInt ∧ IsSixDigits code := by
  apply (valid_rust_iff rfl).trans
  simp [ObjectSchema.values, payloadSchema, pairChallenge, closed, List.lookup_cons, allOf,
    pattern, fits_codePattern]

theorem valid_pairConfirm (accepted : Bool) :
    Valid (Envelope.new freshId now .devicePairConfirm ourDeviceId
      (PairConfirm.toValue { accepted })).toJson ↔ 0 ≤ now.toInt := by
  apply (valid_rust_iff rfl).trans
  simp [ObjectSchema.values, payloadSchema, pairConfirm, closed]

theorem valid_pairComplete (certPem certFingerprint : String) :
    Valid (Envelope.new freshId now .devicePairComplete ourDeviceId
      (PairComplete.toValue { certPem, certFingerprint })).toJson ↔
      0 ≤ now.toInt ∧ ∃ digest, certFingerprint = Crypto.certFingerprint digest := by
  apply (valid_rust_iff rfl).trans
  simp [ObjectSchema.values, payloadSchema, pairComplete, closed, List.lookup_cons, allOf, pattern,
    fits_fingerprintPattern]

theorem valid_notificationDismissed (id : String) :
    Valid (Envelope.new freshId now .notificationDismissed ourDeviceId
      (NotificationDismissed.toValue { id })).toJson ↔
      0 ≤ now.toInt ∧ 1 ≤ id.length ∧ id.length ≤ 128 := by
  apply (valid_rust_iff rfl).trans
  simp [ObjectSchema.values, payloadSchema, notificationDismissed, closed]

theorem valid_smsSendRequest (recipient body : String) (subscriptionId : Option Int32) :
    Valid (Envelope.new freshId now .smsSendRequest ourDeviceId
      (SmsSendRequest.toValue { recipient, body, subscriptionId })).toJson ↔
      0 ≤ now.toInt ∧ (1 ≤ recipient.length ∧ recipient.length ≤ 32) ∧
        1 ≤ body.length ∧ body.length ≤ 8192 := by
  cases subscriptionId with
  | none =>
    apply (valid_rust_iff rfl).trans
    simp [ObjectSchema.values, payloadSchema, smsSendRequest, closed, List.lookup_cons]
  | some n =>
    apply (valid_rust_iff rfl).trans
    simp [ObjectSchema.values, payloadSchema, smsSendRequest, closed, List.lookup_cons]

theorem valid_callDialRequest (number : String) :
    Valid (Envelope.new freshId now .callDialRequest ourDeviceId
      (CallDialRequest.toValue { number })).toJson ↔
      0 ≤ now.toInt ∧ 1 ≤ number.length ∧ number.length ≤ 32 := by
  apply (valid_rust_iff rfl).trans
  simp [ObjectSchema.values, payloadSchema, callDialRequest, closed]

/-- Two of the schemas that admit the names of the payload accept the same values. -/
theorem not_valid_of_twin {kind : MessageType} {fields : List (String × Json)}
    {first second : ObjectSchema}
    (h : [first, second].Sublist (alternatives.filter (·.admits (fields.map Prod.fst))))
    (hsame : first.values fields = second.values fields)
    (hkind : (payloadSchema kind).values fields = first.values fields) :
    ¬ Valid (Envelope.new freshId now kind ourDeviceId (.obj fields)).toJson := by
  rw [Valid, Bool.not_eq_true]
  exact not_protocol_frame_of_twin h hsame hkind

/-- The empty payload is of several schemas. -/
theorem not_valid_empty (kind : MessageType) :
    ¬ Valid (Envelope.new freshId now kind ourDeviceId (.obj [])).toJson := by
  have hfilter : alternatives.filter (·.admits (([] : List (String × Json)).map Prod.fst)) =
      [Schema.empty, deviceHeartbeat] ++ [deviceInfoUpdate, pairAccept, pairReject, unpair,
        smsListRequest, callAnswerRequest, callEndRequest] := rfl
  have htwin : [Schema.empty, deviceHeartbeat].Sublist
      (alternatives.filter (·.admits (([] : List (String × Json)).map Prod.fst))) := by
    rw [hfilter]
    exact List.sublist_append_left _ _
  exact not_valid_of_twin freshId ourDeviceId now htwin rfl rfl

/-- A reason is a payload of a rejection and of an unpairing. -/
theorem not_valid_pairReject (reason : String) :
    ¬ Valid (Envelope.new freshId now .devicePairReject ourDeviceId
      (PairReject.toValue { reason := some reason })).toJson := by
  have htwin : [pairReject, unpair].Sublist (alternatives.filter
      (·.admits ([("reason", Json.str reason)].map Prod.fst))) :=
    (List.Sublist.refl [pairReject, unpair])
  exact not_valid_of_twin freshId ourDeviceId now htwin rfl rfl

end Rust

/-! ## Payloads of the phone -/

section Phone

open Android

variable (freshId : Uuid) (deviceId : String) (now : Int64)

/-- An envelope of the phone around a payload. -/
def phoneEnvelope (type : String) (payload : Json) : Android.Envelope :=
  { id := freshId.toText, ts := now, type, deviceId, payload }

theorem valid_phone_pairRequest (ephemeralPubkey : String) :
    Valid (phoneEnvelope freshId deviceId now MessageType.devicePairRequest
      (PairRequestPayload.encode { ephemeralPubkey })).encode ↔
      0 ≤ now.toInt ∧ IsUuid deviceId := by
  apply (valid_phone_iff .devicePairRequest rfl rfl).trans
  simp [ObjectSchema.values, payloadSchema, pairRequest, closed]

theorem valid_phone_pairChallenge (ephemeralPubkey code : String) (expiresAt : Int64) :
    Valid (phoneEnvelope freshId deviceId now MessageType.devicePairChallenge
      (PairChallengePayload.encode { ephemeralPubkey, code, expiresAt })).encode ↔
      (0 ≤ now.toInt ∧ IsUuid deviceId) ∧ IsSixDigits code := by
  apply (valid_phone_iff .devicePairChallenge rfl rfl).trans
  simp [ObjectSchema.values, payloadSchema, pairChallenge, closed, List.lookup_cons, allOf,
    pattern, fits_codePattern]

theorem valid_phone_pairConfirm (accepted : Bool) :
    Valid (phoneEnvelope freshId deviceId now MessageType.devicePairConfirm
      (PairConfirmPayload.encode { accepted })).encode ↔ 0 ≤ now.toInt ∧ IsUuid deviceId := by
  apply (valid_phone_iff .devicePairConfirm rfl rfl).trans
  simp [ObjectSchema.values, payloadSchema, pairConfirm, closed]

theorem valid_phone_pairComplete (certPem certFingerprint : String) :
    Valid (phoneEnvelope freshId deviceId now MessageType.devicePairComplete
      (PairCompletePayload.encode { certPem, certFingerprint })).encode ↔
      (0 ≤ now.toInt ∧ IsUuid deviceId) ∧
        ∃ digest, certFingerprint = Crypto.certFingerprint digest := by
  apply (valid_phone_iff .devicePairComplete rfl rfl).trans
  simp [ObjectSchema.values, payloadSchema, pairComplete, closed, List.lookup_cons, allOf, pattern,
    fits_fingerprintPattern]

theorem valid_phone_notificationDismissed (id : String) :
    Valid (phoneEnvelope freshId deviceId now MessageType.notifyDismissed
      (NotificationDismissedPayload.encode { id })).encode ↔
      (0 ≤ now.toInt ∧ IsUuid deviceId) ∧ 1 ≤ id.length ∧ id.length ≤ 128 := by
  apply (valid_phone_iff .notificationDismissed rfl rfl).trans
  simp [ObjectSchema.values, payloadSchema, notificationDismissed, closed]

/-- The phone never has a port, and writes that as a null. -/
theorem not_valid_phone_hello {payload : DeviceHelloPayload} (hport : payload.port = none) :
    ¬ Valid (phoneEnvelope freshId deviceId now MessageType.deviceHello payload.encode).encode := by
  apply mt (valid_phone_iff .deviceHello rfl rfl).mp
  simp [ObjectSchema.values, payloadSchema, deviceHello, closed, List.lookup_cons, hport,
    Kotlinx.encodeNullable]

/-- A heartbeat without a round-trip time carries a null. -/
theorem not_valid_phone_heartbeat :
    ¬ Valid (phoneEnvelope freshId deviceId now MessageType.deviceHeartbeat
      (DeviceHeartbeatPayload.encode {})).encode := by
  apply mt (valid_phone_iff .deviceHeartbeat rfl rfl).mp
  simp [ObjectSchema.values, payloadSchema, deviceHeartbeat, closed, Kotlinx.encodeNullable]

/-- The phone calls the package of a notification `package_name`, which no payload schema knows. -/
theorem not_valid_phone_notificationReceived (payload : NotificationReceivedPayload) :
    ¬ Valid (phoneEnvelope freshId deviceId now MessageType.notifyReceived
      payload.encode).encode := by
  have hframe : (phoneEnvelope freshId deviceId now MessageType.notifyReceived
      payload.encode).encode = frame 1 freshId.toText now.toInt .notificationReceived deviceId
        payload.encode := rfl
  rw [Valid, Bool.not_eq_true, hframe]
  exact not_protocol_frame_of_unadmitted rfl

/-- A message without a SIM slot carries a null. -/
theorem not_valid_phone_smsReceived {payload : SmsReceivedPayload} (hslot : payload.simSlot = none) :
    ¬ Valid (phoneEnvelope freshId deviceId now MessageType.smsReceived payload.encode).encode := by
  have hnull : simSlot .null = false := rfl
  apply mt (valid_phone_iff .smsReceived rfl rfl).mp
  simp [ObjectSchema.values, payloadSchema, smsReceived, closed, List.lookup_cons, hslot, hnull,
    Kotlinx.encodeNullable]

/-- A call without an id carries a null. -/
theorem not_valid_phone_callState {payload : CallStatePayload} (hcall : payload.callId = none) :
    ¬ Valid (phoneEnvelope freshId deviceId now MessageType.callState payload.encode).encode := by
  apply mt (valid_phone_iff .callState rfl rfl).mp
  simp [ObjectSchema.values, payloadSchema, callState, closed, List.lookup_cons, hcall,
    Kotlinx.encodeNullable]

end Phone

end PhoneBridge.Interop
