import PhoneBridge.Interop.PayloadKinds
import PhoneBridge.Library.Utf16

/-!
# Which payloads the two implementations agree on

A payload of one side is read with the same values by the other side exactly when its numbers fit the
other side's integer types, its request id is a UUID, its texts have a UTF-8 form, and it is not a
`notification.received`.
-/

namespace PhoneBridge.Interop

open Library Proto Android

/-- A reader that accepts exactly the records with the same values reads a record when there is
one. -/
theorem read_iff {ε α β : Type} {read : Json → Except ε β} {write : α → Json} {same : α → β → Prop}
    {fits : α → Prop} (hread : ∀ a b, read (write a) = .ok b ↔ same a b)
    (hfits : ∀ a, (∃ b, same a b) ↔ fits a) (a : α) :
    (∃ b, read (write a) = .ok b ∧ same a b) ↔ fits a := by
  rw [← hfits a]
  exact exists_congr fun b ↦ ⟨And.right, fun h ↦ ⟨(hread a b).mpr h, h⟩⟩

theorem parse_notificationReceived (p : NotificationReceivedPayload) (q : NotificationReceived) :
    NotificationReceived.parse p.encode ≠ .ok q := by
  simp [NotificationReceived.parse, NotificationReceivedPayload.encode, bind_eq_ok,
    Serde.required_eq_elim, List.lookup_cons]

theorem decode_notificationReceived (lexer : Kotlinx.Lexer) (q : NotificationReceived)
    (p : NotificationReceivedPayload) :
    NotificationReceivedPayload.decode lexer q.toValue ≠ .ok p := by
  simp [NotificationReceivedPayload.decode, NotificationReceived.toValue, bind_eq_ok,
    Kotlinx.property_eq_elim, Interchange.dataClass_objSkipNone, List.lookup_cons]

/-- The Rust side reads a payload of the phone with the same values exactly when it fits. -/
theorem rust_reads_iff (kind : MessageType) (p : KotlinPayload kind) :
    (∃ q, parsePayload kind (encode kind p) = .ok q ∧ Same kind p q) ↔ RustReads kind p := by
  cases kind with
  | deviceHello =>
    exact read_iff (fun _ _ ↦ SameDeviceHello.parse_encode) SameDeviceHello.exists_right p
  | deviceHeartbeat =>
    exact read_iff (fun _ _ ↦ SameDeviceHeartbeat.parse_encode) SameDeviceHeartbeat.exists_right p
  | deviceInfoUpdate =>
    exact read_iff (fun _ _ ↦ SameDeviceInfoUpdate.parse_encode) SameDeviceInfoUpdate.exists_right p
  | devicePairRequest =>
    exact read_iff (fun _ _ ↦ SamePairRequest.parse_encode)
      (fun p ↦ iff_true_intro (SamePairRequest.exists_right p)) p
  | devicePairChallenge =>
    exact read_iff (fun _ _ ↦ SamePairChallenge.parse_encode)
      (fun p ↦ iff_true_intro (SamePairChallenge.exists_right p)) p
  | devicePairConfirm =>
    exact read_iff (fun _ _ ↦ SamePairConfirm.parse_encode)
      (fun p ↦ iff_true_intro (SamePairConfirm.exists_right p)) p
  | devicePairAccept => exact iff_of_true ⟨{}, rfl, trivial⟩ trivial
  | devicePairReject =>
    exact read_iff (fun _ _ ↦ SamePairReject.parse_encode)
      (fun p ↦ iff_true_intro (SamePairReject.exists_right p)) p
  | devicePairComplete =>
    exact read_iff (fun _ _ ↦ SamePairComplete.parse_encode)
      (fun p ↦ iff_true_intro (SamePairComplete.exists_right p)) p
  | deviceUnpair =>
    exact read_iff (fun _ _ ↦ SameUnpair.parse_encode)
      (fun p ↦ iff_true_intro (SameUnpair.exists_right p)) p
  | notificationReceived =>
    exact iff_of_false (fun ⟨q, hread, _⟩ ↦ parse_notificationReceived p q hread) id
  | notificationDismissed =>
    exact read_iff (fun _ _ ↦ SameNotificationDismissed.parse_encode)
      (fun p ↦ iff_true_intro (SameNotificationDismissed.exists_right p)) p
  | smsReceived =>
    exact read_iff (fun _ _ ↦ SameSmsReceived.parse_encode) SameSmsReceived.exists_right p
  | smsSendRequest =>
    exact read_iff (fun _ _ ↦ SameSmsSendRequest.parse_encode)
      (fun p ↦ iff_true_intro (SameSmsSendRequest.exists_right p)) p
  | smsSendResult =>
    exact read_iff (fun _ _ ↦ SameSmsSendResult.parse_encode) SameSmsSendResult.exists_right p
  | smsListRequest =>
    exact read_iff (fun _ _ ↦ SameSmsListRequest.parse_encode) SameSmsListRequest.exists_right p
  | smsListResult =>
    exact read_iff (fun _ _ ↦ SameSmsListResult.parse_encode) SameSmsListResult.exists_right p
  | callState =>
    exact read_iff (fun _ _ ↦ SameCallState.parse_encode) SameCallState.exists_right p
  | callIncoming =>
    exact read_iff (fun _ _ ↦ SameCallIncoming.parse_encode) SameCallIncoming.exists_right p
  | callAnswerRequest => exact iff_of_true ⟨{}, rfl, trivial⟩ trivial
  | callEndRequest => exact iff_of_true ⟨{}, rfl, trivial⟩ trivial
  | callDialRequest =>
    exact read_iff (fun _ _ ↦ SameCallDialRequest.parse_encode)
      (fun p ↦ iff_true_intro (SameCallDialRequest.exists_right p)) p
  | callHistory =>
    exact read_iff (fun _ _ ↦ SameCallHistory.parse_encode) SameCallHistory.exists_right p

/-- The phone reads a payload of the Rust side with the same values exactly when it fits. -/
theorem kotlin_reads_iff (lexer : Kotlinx.Lexer) (kind : MessageType) (q : RustPayload kind) :
    (∃ p, decode lexer kind (toValue kind q) = .ok p ∧ Same kind p q) ↔ KotlinReads kind q := by
  cases kind with
  | deviceHello =>
    exact read_iff (fun _ _ ↦ SameDeviceHello.decode_toValue)
      (fun q ↦ iff_true_intro (SameDeviceHello.exists_left q)) q
  | deviceHeartbeat =>
    exact read_iff (fun _ _ ↦ SameDeviceHeartbeat.decode_toValue) SameDeviceHeartbeat.exists_left q
  | deviceInfoUpdate =>
    exact read_iff (fun _ _ ↦ SameDeviceInfoUpdate.decode_toValue)
      (fun q ↦ iff_true_intro (SameDeviceInfoUpdate.exists_left q)) q
  | devicePairRequest =>
    exact read_iff (fun _ _ ↦ SamePairRequest.decode_toValue)
      (fun q ↦ iff_true_intro (SamePairRequest.exists_left q)) q
  | devicePairChallenge =>
    exact read_iff (fun _ _ ↦ SamePairChallenge.decode_toValue)
      (fun q ↦ iff_true_intro (SamePairChallenge.exists_left q)) q
  | devicePairConfirm =>
    exact read_iff (fun _ _ ↦ SamePairConfirm.decode_toValue)
      (fun q ↦ iff_true_intro (SamePairConfirm.exists_left q)) q
  | devicePairAccept => exact iff_of_true ⟨{}, rfl, trivial⟩ trivial
  | devicePairReject =>
    exact read_iff (fun _ _ ↦ SamePairReject.decode_toValue)
      (fun q ↦ iff_true_intro (SamePairReject.exists_left q)) q
  | devicePairComplete =>
    exact read_iff (fun _ _ ↦ SamePairComplete.decode_toValue)
      (fun q ↦ iff_true_intro (SamePairComplete.exists_left q)) q
  | deviceUnpair =>
    exact read_iff (fun _ _ ↦ SameUnpair.decode_toValue)
      (fun q ↦ iff_true_intro (SameUnpair.exists_left q)) q
  | notificationReceived =>
    exact iff_of_false (fun ⟨p, hread, _⟩ ↦ decode_notificationReceived lexer q p hread) id
  | notificationDismissed =>
    exact read_iff (fun _ _ ↦ SameNotificationDismissed.decode_toValue)
      (fun q ↦ iff_true_intro (SameNotificationDismissed.exists_left q)) q
  | smsReceived =>
    exact read_iff (fun _ _ ↦ SameSmsReceived.decode_toValue)
      (fun q ↦ iff_true_intro (SameSmsReceived.exists_left q)) q
  | smsSendRequest =>
    exact read_iff (fun _ _ ↦ SameSmsSendRequest.decode_toValue)
      (fun q ↦ iff_true_intro (SameSmsSendRequest.exists_left q)) q
  | smsSendResult =>
    refine iff_of_true ⟨⟨Uuid.toText q.requestId, q.ok, q.errorCode, q.errorMessage⟩, ?_,
      ?_⟩ trivial
    · exact SameSmsSendResult.decode_toValue.mpr ⟨rfl, Uuid.parse_toText _, rfl, rfl, rfl⟩
    · exact ⟨Uuid.parse_toText _, rfl, rfl, rfl⟩
  | smsListRequest =>
    exact read_iff (fun _ _ ↦ SameSmsListRequest.decode_toValue) SameSmsListRequest.exists_left q
  | smsListResult =>
    exact read_iff (fun _ _ ↦ SameSmsListResult.decode_toValue)
      (fun q ↦ iff_true_intro (SameSmsListResult.exists_left q)) q
  | callState =>
    exact read_iff (fun _ _ ↦ SameCallState.decode_toValue)
      (fun q ↦ iff_true_intro (SameCallState.exists_left q)) q
  | callIncoming =>
    exact read_iff (fun _ _ ↦ SameCallIncoming.decode_toValue)
      (fun q ↦ iff_true_intro (SameCallIncoming.exists_left q)) q
  | callAnswerRequest => exact iff_of_true ⟨{}, rfl, trivial⟩ trivial
  | callEndRequest => exact iff_of_true ⟨{}, rfl, trivial⟩ trivial
  | callDialRequest =>
    exact read_iff (fun _ _ ↦ SameCallDialRequest.decode_toValue)
      (fun q ↦ iff_true_intro (SameCallDialRequest.exists_left q)) q
  | callHistory =>
    exact read_iff (fun _ _ ↦ SameCallHistory.decode_toValue) SameCallHistory.exists_left q

/-! ## The texts in the memory of the phone -/

section Memory

variable (kind : MessageType)

/-- What arrives of a payload of the phone: its serializer keeps the code units of the texts, which
go out in UTF-8. -/
def sentJson (p : KotlinPayload kind Utf16.Units) : Json := encode kind (p.mapTexts Utf16.sent)

/-- The payload that the phone holds when it has read the JSON. -/
def readJson (lexer : Kotlinx.Lexer) : Kotlinx.Decoder (KotlinPayload kind Utf16.Units) :=
  fun json ↦ (decode lexer kind json).map (KotlinPayload.mapTexts Utf16.ofString)

/-- The two records hold the same values, the phone's its texts as code units. -/
def SameValues (p : KotlinPayload kind Utf16.Units) (q : RustPayload kind) : Prop :=
  ∃ r : KotlinPayload kind, r.mapTexts Utf16.ofString = p ∧ Same kind r q

/-- Every surrogate in the texts of the payload is paired. -/
def TextsPaired (p : KotlinPayload kind Utf16.Units) : Prop :=
  ∀ t ∈ p.texts, Utf16.wellFormed t = true

end Memory

section Sent

variable {kind : MessageType} {p : KotlinPayload kind Utf16.Units} {r : KotlinPayload kind}

theorem sent_ofString : (r.mapTexts Utf16.ofString).mapTexts Utf16.sent = r :=
  KotlinPayload.mapTexts_of_inverse fun t _ ↦ Utf16.sent_ofString t

theorem ofString_sent (h : TextsPaired kind p) :
    (p.mapTexts Utf16.sent).mapTexts Utf16.ofString = p :=
  KotlinPayload.mapTexts_of_inverse fun t ht ↦ Utf16.ofString_sent (h t ht)

theorem textsPaired_ofString : TextsPaired kind (r.mapTexts Utf16.ofString) := by
  intro t ht
  rw [KotlinPayload.texts_mapTexts] at ht
  obtain ⟨s, -, rfl⟩ := List.mem_map.mp ht
  exact Utf16.wellFormed_ofString s

end Sent

/-- A payload in memory arrives exactly when its texts have a UTF-8 form and it fits. -/
theorem rust_reads_sent_iff (kind : MessageType) (p : KotlinPayload kind Utf16.Units) :
    (∃ q, parsePayload kind (sentJson kind p) = .ok q ∧ SameValues kind p q) ↔
      RustReads kind (p.mapTexts Utf16.sent) ∧ TextsPaired kind p := by
  constructor
  · rintro ⟨q, hread, r, rfl, hsame⟩
    rw [sentJson, sent_ofString] at hread
    rw [sent_ofString]
    exact ⟨(rust_reads_iff kind r).mp ⟨q, hread, hsame⟩, textsPaired_ofString⟩
  · rintro ⟨hreads, hpaired⟩
    obtain ⟨q, hread, hsame⟩ := (rust_reads_iff kind _).mpr hreads
    exact ⟨q, hread, _, ofString_sent hpaired, hsame⟩

/-- What the phone reads it holds with all its texts. -/
theorem kotlin_holds_iff (lexer : Kotlinx.Lexer) (kind : MessageType) (q : RustPayload kind) :
    (∃ p, readJson kind lexer (toValue kind q) = .ok p ∧ SameValues kind p q) ↔
      KotlinReads kind q := by
  rw [← kotlin_reads_iff lexer kind q]
  constructor
  · rintro ⟨p, hread, r, hr, hsame⟩
    obtain ⟨decoded, hdecoded, rfl⟩ := map_eq_ok.mp hread
    have hrecord : r = decoded := by rw [← sent_ofString (r := r), hr, sent_ofString]
    exact ⟨decoded, hdecoded, hrecord ▸ hsame⟩
  · rintro ⟨r, hdecoded, hsame⟩
    exact ⟨_, map_eq_ok.mpr ⟨r, hdecoded, rfl⟩, r, rfl, hsame⟩

/-- Both directions: a payload arrives with the same values exactly when it fits the other side. -/
theorem wire_agreement_iff (lexer : Kotlinx.Lexer) (kind : MessageType) :
    (∀ p : KotlinPayload kind Utf16.Units,
      (∃ q, parsePayload kind (sentJson kind p) = .ok q ∧ SameValues kind p q) ↔
        RustReads kind (p.mapTexts Utf16.sent) ∧ TextsPaired kind p) ∧
    ∀ q : RustPayload kind,
      (∃ p, readJson kind lexer (toValue kind q) = .ok p ∧ SameValues kind p q) ↔
        KotlinReads kind q :=
  ⟨rust_reads_sent_iff kind, kotlin_holds_iff lexer kind⟩

/-- A notification of the phone. -/
def sampleNotification : NotificationReceivedPayload Utf16.Units where
  id := Utf16.ofString "0|com.example.mail|1"
  packageName := Utf16.ofString "com.example.mail"
  title := Utf16.ofString "Hello"
  content := Utf16.ofString "World"
  postedAt := 1000

/-- No notification of the phone arrives. -/
theorem notification_is_dropped : ¬ ∀ (kind : MessageType) (p : KotlinPayload kind Utf16.Units),
    ∃ q, parsePayload kind (sentJson kind p) = .ok q ∧ SameValues kind p q := by
  intro h
  obtain ⟨q, hread, -⟩ := h .notificationReceived sampleNotification
  exact parse_notificationReceived _ _ hread

end PhoneBridge.Interop
