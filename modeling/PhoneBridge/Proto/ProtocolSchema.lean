import PhoneBridge.Library.JsonSchema
import PhoneBridge.Proto.Envelope

/-!
# The protocol schema

`schema/protocol.schema.json`: the payload alternatives, the envelope with its rule for each message
type, and the root. The second half brings an envelope's validity down to its fields.
-/

namespace PhoneBridge.Proto.Schema

open Library JsonSchema

/-! ## Payloads -/

/-- A payload schema; none of them allows additional properties. -/
def closed (required : List String) (properties : List (String × JsonSchema)) : ObjectSchema :=
  { required, properties, additionalProperties := false }

/-- A string with a length between two bounds. -/
def text (low high : Nat) : JsonSchema := allOf [typeString, minLength low, maxLength high]

/-- A string among some values. -/
def oneOfTexts (values : List String) : JsonSchema := allOf [typeString, enumStr values]

def uuid : JsonSchema := allOf [typeString, formatUuid]

/-- An integer that is not negative. -/
def natural : JsonSchema := allOf [typeInteger, minimum 0]

/-- An integer between two bounds. -/
def ranged (low high : Int) : JsonSchema := allOf [typeInteger, minimum low, maximum high]

/-- `sim_slot` has the same schema everywhere. -/
def simSlot : JsonSchema := allOf [typeInteger, enumInt [0, 1]]

def empty : ObjectSchema := closed [] []

def deviceHello : ObjectSchema :=
  closed ["name", "device_type", "protocol_version", "pubkey"]
    [("name", text 1 64), ("device_type", oneOfTexts ["desktop", "android"]),
      ("protocol_version", allOf [typeInteger, enumInt [1]]), ("pubkey", typeString),
      ("port", ranged 1 65535), ("manufacturer", text 0 64), ("model", text 0 64),
      ("hardware_id", text 1 64)]

def deviceHeartbeat : ObjectSchema := closed [] [("rtt_ms", ranged 0 60000)]

def deviceInfoUpdate : ObjectSchema :=
  closed []
    [("battery_level", ranged 0 100), ("is_charging", typeBoolean),
      ("network_type", oneOfTexts ["wifi", "cellular", "ethernet", "none"]),
      ("android_version", typeString), ("app_version", typeString)]

def pairRequest : ObjectSchema := closed ["ephemeral_pubkey"] [("ephemeral_pubkey", typeString)]

def decimalDigit : Char → Bool := between '0' '9'

/-- `^[0-9]{6}$` -/
def codePattern : List (Char → Bool) := List.replicate 6 decimalDigit

def pairChallenge : ObjectSchema :=
  closed ["ephemeral_pubkey", "code", "expires_at"]
    [("ephemeral_pubkey", typeString), ("code", allOf [typeString, pattern codePattern]),
      ("expires_at", typeInteger)]

def pairConfirm : ObjectSchema := closed ["accepted"] [("accepted", typeBoolean)]

def pairAccept : ObjectSchema := closed [] []

def pairReject : ObjectSchema := closed [] [("reason", text 0 256)]

/-- `[A-F0-9]` -/
def upperHexDigit (c : Char) : Bool := between 'A' 'F' c || between '0' '9' c

/-- `^[A-F0-9]{2}(:[A-F0-9]{2}){31}$` -/
def fingerprintPattern : List (Char → Bool) :=
  List.replicate 2 upperHexDigit ++
    (List.replicate 31 ((· == ':') :: List.replicate 2 upperHexDigit)).flatten

def pairComplete : ObjectSchema :=
  closed ["cert_pem", "cert_fingerprint"]
    [("cert_pem", typeString), ("cert_fingerprint", allOf [typeString, pattern fingerprintPattern])]

def unpair : ObjectSchema := closed [] [("reason", text 0 256)]

def notificationReceived : ObjectSchema :=
  closed ["id", "package", "title", "content", "posted_at"]
    [("id", text 1 128), ("package", text 1 128), ("app_name", text 0 128),
      ("title", text 0 1024), ("content", text 0 8192), ("posted_at", natural),
      ("is_sensitive", typeBoolean), ("category", text 0 64)]

def notificationDismissed : ObjectSchema := closed ["id"] [("id", text 1 128)]

def smsReceived : ObjectSchema :=
  closed ["id", "address", "body", "received_at"]
    [("id", text 1 128), ("address", text 1 32), ("body", text 0 8192), ("received_at", natural),
      ("sim_slot", simSlot), ("subscription_id", typeInteger)]

def smsSendRequest : ObjectSchema :=
  closed ["to", "body"]
    [("to", text 1 32), ("body", text 1 8192), ("subscription_id", typeInteger)]

def smsSendResult : ObjectSchema :=
  closed ["request_id", "ok"]
    [("request_id", uuid), ("ok", typeBoolean), ("error_code", text 0 64),
      ("error_message", text 0 256)]

def smsListRequest : ObjectSchema := closed [] [("limit", ranged 1 500), ("before", natural)]

def smsListResult : ObjectSchema :=
  closed ["messages"] [("messages", allOf [typeArray, items smsReceived.accepts])]

def callState : ObjectSchema :=
  closed ["state"]
    [("state", oneOfTexts ["idle", "ringing", "offhook"]), ("phone_number", text 0 32),
      ("call_id", text 0 64), ("contact_name", text 0 128), ("sim_slot", simSlot)]

def callIncoming : ObjectSchema :=
  closed ["phone_number"]
    [("phone_number", text 1 32), ("contact_name", text 0 128), ("sim_slot", simSlot)]

def callAnswerRequest : ObjectSchema := closed [] []

def callEndRequest : ObjectSchema := closed [] []

def callDialRequest : ObjectSchema := closed ["number"] [("number", text 1 32)]

/-- An item of `entries`. -/
def callHistoryEntry : ObjectSchema :=
  closed ["phone_number", "started_at", "direction"]
    [("phone_number", text 0 32), ("contact_name", text 0 128), ("started_at", natural),
      ("duration_seconds", natural),
      ("direction", oneOfTexts ["incoming", "outgoing", "missed"]), ("sim_slot", simSlot)]

def callHistory : ObjectSchema :=
  closed ["entries"] [("entries", allOf [typeArray, items callHistoryEntry.accepts])]

/-! ## Envelopes -/

/-- The union of the payload schemas. -/
def alternatives : List ObjectSchema :=
  [empty, deviceHello, deviceHeartbeat, deviceInfoUpdate, pairRequest, pairChallenge, pairConfirm,
    pairAccept, pairReject, pairComplete, unpair, notificationReceived, notificationDismissed,
    smsReceived, smsSendRequest, smsSendResult, smsListRequest, smsListResult, callState,
    callIncoming, callAnswerRequest, callEndRequest, callDialRequest, callHistory]

/-- The payload schema of each message type. -/
def rules : List (String × ObjectSchema) :=
  [("device.hello", deviceHello), ("device.heartbeat", deviceHeartbeat),
    ("device.info.update", deviceInfoUpdate), ("device.pair.request", pairRequest),
    ("device.pair.challenge", pairChallenge), ("device.pair.confirm", pairConfirm),
    ("device.pair.accept", pairAccept), ("device.pair.reject", pairReject),
    ("device.pair.complete", pairComplete), ("device.unpair", unpair),
    ("notification.received", notificationReceived),
    ("notification.dismissed", notificationDismissed), ("sms.received", smsReceived),
    ("sms.send.request", smsSendRequest), ("sms.send.result", smsSendResult),
    ("sms.list.request", smsListRequest), ("sms.list.result", smsListResult),
    ("call.state", callState), ("call.incoming", callIncoming),
    ("call.answer.request", callAnswerRequest), ("call.end.request", callEndRequest),
    ("call.dial.request", callDialRequest), ("call.history", callHistory)]

/-- The names of the message types. -/
def types : List String :=
  ["device.hello", "device.heartbeat", "device.info.update", "device.pair.request",
    "device.pair.challenge", "device.pair.confirm", "device.pair.accept", "device.pair.reject",
    "device.pair.complete", "device.unpair", "notification.received", "notification.dismissed",
    "sms.received", "sms.send.request", "sms.send.result", "sms.list.request", "sms.list.result",
    "call.state", "call.incoming", "call.answer.request", "call.end.request", "call.dial.request",
    "call.history"]

/-- The keywords `required` and `properties` of an envelope. -/
def envelopeFields : ObjectSchema where
  required := ["v", "id", "ts", "type", "device_id", "payload"]
  properties := [("v", allOf [typeInteger, enumInt [1]]), ("id", uuid), ("ts", natural),
    ("type", oneOfTexts types), ("device_id", uuid),
    ("payload", oneOf (alternatives.map ObjectSchema.accepts))]

/-- An envelope of the named type has a payload of this schema. -/
def rule (entry : String × ObjectSchema) : JsonSchema :=
  ifThen (property "type" (enumStr [entry.1])) (property "payload" entry.2.accepts)

def envelope : JsonSchema := allOf (envelopeFields.accepts :: rules.map rule)

/-- The root of the schema. -/
def protocol : JsonSchema := oneOf [envelope]

/-! ## What makes an envelope valid -/

/-- The payload schema that a message type's rule names. -/
def payloadSchema : MessageType → ObjectSchema
  | .deviceHello => deviceHello
  | .deviceHeartbeat => deviceHeartbeat
  | .deviceInfoUpdate => deviceInfoUpdate
  | .devicePairRequest => pairRequest
  | .devicePairChallenge => pairChallenge
  | .devicePairConfirm => pairConfirm
  | .devicePairAccept => pairAccept
  | .devicePairReject => pairReject
  | .devicePairComplete => pairComplete
  | .deviceUnpair => unpair
  | .notificationReceived => notificationReceived
  | .notificationDismissed => notificationDismissed
  | .smsReceived => smsReceived
  | .smsSendRequest => smsSendRequest
  | .smsSendResult => smsSendResult
  | .smsListRequest => smsListRequest
  | .smsListResult => smsListResult
  | .callState => callState
  | .callIncoming => callIncoming
  | .callAnswerRequest => callAnswerRequest
  | .callEndRequest => callEndRequest
  | .callDialRequest => callDialRequest
  | .callHistory => callHistory

theorem rules_eq :
    rules = MessageType.all.map fun kind ↦ (kind.asStr, payloadSchema kind) := rfl

theorem types_eq : types = MessageType.all.map MessageType.asStr := rfl

theorem mem_all (kind : MessageType) : kind ∈ MessageType.all := by
  cases kind <;> decide

theorem asStr_injective : Function.Injective MessageType.asStr := by
  intro first second h
  apply Option.some.inj
  rw [← MessageType.lookup_asStr, h, MessageType.lookup_asStr]

theorem asStr_mem_types (kind : MessageType) : kind.asStr ∈ types := by
  rw [types_eq]
  exact List.mem_map_of_mem (mem_all kind)

/-- The fields of an envelope apart from its type and its payload. -/
structure ValidHeader (v : Int) (id : String) (ts : Int) (deviceId : String) : Prop where
  version : v = 1
  id : IsUuid id
  time : 0 ≤ ts
  deviceId : IsUuid deviceId

/-- An envelope as both sides write it. -/
def frame (v : Int) (id : String) (ts : Int) (kind : MessageType) (deviceId : String)
    (payload : Json) : Json :=
  .obj [("v", .int v), ("id", .str id), ("ts", .int ts), ("type", .str kind.asStr),
    ("device_id", .str deviceId), ("payload", payload)]

section Frames

variable {v ts : Int} {id deviceId : String} {kind : MessageType} {payload : Json}

theorem rule_frame (other : MessageType) :
    rule (other.asStr, payloadSchema other) (frame v id ts kind deviceId payload) = true ↔
      (other = kind → (payloadSchema other).accepts payload = true) := by
  have htype : (frame v id ts kind deviceId payload).get "type" = some (.str kind.asStr) := rfl
  have hpayload : (frame v id ts kind deviceId payload).get "payload" = some payload := rfl
  have hname : kind.asStr = other.asStr ↔ other = kind :=
    asStr_injective.eq_iff.trans eq_comm
  simp [rule, ifThen, property, htype, hpayload, enumStr, hname, imp_iff_not_or]

theorem rules_frame :
    (rules.map rule).all (· (frame v id ts kind deviceId payload)) = true ↔
      (payloadSchema kind).accepts payload = true := by
  rw [rules_eq, List.map_map, List.all_map, List.all_eq_true]
  constructor
  · intro h
    exact (rule_frame kind).mp (h kind (mem_all kind)) rfl
  · intro h other _
    apply (rule_frame other).mpr
    rintro rfl
    exact h

theorem envelopeFields_frame :
    envelopeFields.accepts (frame v id ts kind deviceId payload) = true ↔
      ValidHeader v id ts deviceId ∧
        oneOf (alternatives.map ObjectSchema.accepts) payload = true := by
  have hvalues : envelopeFields.accepts (frame v id ts kind deviceId payload) =
      envelopeFields.values [("v", .int v), ("id", .str id), ("ts", .int ts),
        ("type", .str kind.asStr), ("device_id", .str deviceId), ("payload", payload)] := rfl
  have hfields : envelopeFields.accepts (frame v id ts kind deviceId payload) = true ↔
      v = 1 ∧ IsUuid id ∧ 0 ≤ ts ∧ IsUuid deviceId ∧
        oneOf (alternatives.map ObjectSchema.accepts) payload = true := by
    rw [hvalues]
    simp [ObjectSchema.values, envelopeFields, List.lookup_cons, allOf, typeInteger, enumInt, uuid,
      typeString, formatUuid, natural, minimum, oneOfTexts, enumStr, asStr_mem_types kind]
  rw [hfields]
  constructor
  · intro h
    exact ⟨⟨h.1, h.2.1, h.2.2.1, h.2.2.2.1⟩, h.2.2.2.2⟩
  · intro h
    exact ⟨h.1.version, h.1.id, h.1.time, h.1.deviceId, h.2⟩

/-- An envelope is valid when its header is, when its payload is of exactly one of the payload
schemas, and when it is of the one for its type. -/
theorem protocol_frame :
    protocol (frame v id ts kind deviceId payload) = true ↔
      (ValidHeader v id ts deviceId ∧
        oneOf (alternatives.map ObjectSchema.accepts) payload = true) ∧
        (payloadSchema kind).accepts payload = true := by
  rw [← envelopeFields_frame, ← rules_frame, ← Bool.and_eq_true]
  have hroot : protocol (frame v id ts kind deviceId payload) =
      envelope (frame v id ts kind deviceId payload) := by
    rw [protocol, oneOf]
    cases henvelope : envelope (frame v id ts kind deviceId payload) <;> simp [henvelope]
  rw [hroot]
  rfl

variable {fields : List (String × Json)}

/-- A payload whose names fit the schema of its type only. -/
theorem protocol_frame_of_unique
    (h : alternatives.filter (·.admits (fields.map Prod.fst)) = [payloadSchema kind]) :
    protocol (frame v id ts kind deviceId (.obj fields)) = true ↔
      ValidHeader v id ts deviceId ∧ (payloadSchema kind).values fields = true := by
  have hadmits : (payloadSchema kind).admits (fields.map Prod.fst) = true := by
    have hmem : payloadSchema kind ∈ alternatives.filter (·.admits (fields.map Prod.fst)) := by
      rw [h]
      exact List.mem_singleton_self _
    exact (List.mem_filter.mp hmem).2
  rw [protocol_frame, ObjectSchema.oneOf_of_unique h, ObjectSchema.accepts_obj, hadmits,
    Bool.true_and, and_assoc, and_self]

/-- A payload whose names fit no schema. -/
theorem not_protocol_frame_of_unadmitted
    (h : alternatives.filter (·.admits (fields.map Prod.fst)) = []) :
    protocol (frame v id ts kind deviceId (.obj fields)) = false := by
  rw [Bool.eq_false_iff]
  intro hvalid
  have hunion := (protocol_frame.mp hvalid).1.2
  rw [ObjectSchema.oneOf_of_unadmitted h] at hunion
  cases hunion

/-- A payload whose names fit two schemas that accept the same values is never valid. -/
theorem not_protocol_frame_of_twin {first second : ObjectSchema}
    (h : [first, second].Sublist (alternatives.filter (·.admits (fields.map Prod.fst))))
    (hsame : first.values fields = second.values fields)
    (hkind : (payloadSchema kind).values fields = first.values fields) :
    protocol (frame v id ts kind deviceId (.obj fields)) = false := by
  rw [Bool.eq_false_iff]
  intro hvalid
  have hparts := protocol_frame.mp hvalid
  have hvalues : (payloadSchema kind).values fields = true := by
    have haccepts := hparts.2
    rw [ObjectSchema.accepts_obj, Bool.and_eq_true] at haccepts
    exact haccepts.2
  have hfirst : first.values fields = true := hkind ▸ hvalues
  have hunion := hparts.1.2
  rw [ObjectSchema.oneOf_of_twin h hfirst (hsame ▸ hfirst)] at hunion
  cases hunion

end Frames

end PhoneBridge.Proto.Schema
