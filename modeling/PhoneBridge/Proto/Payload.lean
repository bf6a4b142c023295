import PhoneBridge.Proto.Types
import PhoneBridge.Library.Uuid

/-!
# The payloads of the Rust side

The payload records of `payload.rs`, each with what its derived deserializer accepts (`parse`) and
the JSON value its serializer writes (`toValue`). Optional fields are left out of the written value
when they are absent.
-/

namespace PhoneBridge.Proto

open Library Serde

/-- A UUID is read from any of its textual forms. -/
def uuid : Decoder Uuid := fun json ↦ do
  let text ← string json
  match Uuid.parse text with
  | some id => .ok id
  | none => .error (.invalidValue "a UUID")

/-! ## Device lifecycle -/

/-- `device.hello` payload. -/
structure DeviceHello where
  name : String
  deviceType : DeviceType
  protocolVersion : UInt16
  pubkey : String
  port : Option UInt16
  manufacturer : Option String
  model : Option String
  hardwareId : Option String
  deriving DecidableEq, Repr

def DeviceHello.parse : Decoder DeviceHello := fun json ↦ do
  let read ← record ["name", "device_type", "protocol_version", "pubkey", "port", "manufacturer",
    "model", "hardware_id"] json
  let name ← required read "name" string
  let deviceType ← required read "device_type" (unitVariant DeviceType.names)
  let protocolVersion ← required read "protocol_version" u16
  let pubkey ← required read "pubkey" string
  let port ← optional read "port" u16
  let manufacturer ← optional read "manufacturer" string
  let model ← optional read "model" string
  let hardwareId ← optional read "hardware_id" string
  return { name, deviceType, protocolVersion, pubkey, port, manufacturer, model, hardwareId }

def DeviceHello.toValue (p : DeviceHello) : Json :=
  .objSkipNone [("name", some (.str p.name)), ("device_type", some (.str p.deviceType.asStr)),
    ("protocol_version", some (.int p.protocolVersion.toNat)), ("pubkey", some (.str p.pubkey)),
    ("port", p.port.map fun n ↦ .int n.toNat), ("manufacturer", p.manufacturer.map .str),
    ("model", p.model.map .str), ("hardware_id", p.hardwareId.map .str)]

/-- `device.heartbeat` payload (all fields optional). -/
structure DeviceHeartbeat where
  rttMs : Option UInt32 := none
  deriving DecidableEq, Repr

def DeviceHeartbeat.parse : Decoder DeviceHeartbeat := fun json ↦ do
  let read ← record ["rtt_ms"] json
  let rttMs ← optional read "rtt_ms" u32
  return { rttMs }

def DeviceHeartbeat.toValue (p : DeviceHeartbeat) : Json :=
  .objSkipNone [("rtt_ms", p.rttMs.map fun n ↦ .int n.toNat)]

/-- `device.info.update` payload. -/
structure DeviceInfoUpdate where
  batteryLevel : Option UInt8
  isCharging : Option Bool
  networkType : Option NetworkType
  androidVersion : Option String
  appVersion : Option String
  deriving DecidableEq, Repr

def DeviceInfoUpdate.parse : Decoder DeviceInfoUpdate := fun json ↦ do
  let read ← record ["battery_level", "is_charging", "network_type", "android_version",
    "app_version"] json
  let batteryLevel ← optional read "battery_level" u8
  let isCharging ← optional read "is_charging" bool
  let networkType ← optional read "network_type" (unitVariant NetworkType.names)
  let androidVersion ← optional read "android_version" string
  let appVersion ← optional read "app_version" string
  return { batteryLevel, isCharging, networkType, androidVersion, appVersion }

def DeviceInfoUpdate.toValue (p : DeviceInfoUpdate) : Json :=
  .objSkipNone [("battery_level", p.batteryLevel.map fun n ↦ .int n.toNat),
    ("is_charging", p.isCharging.map .bool), ("network_type", p.networkType.map fun n ↦ .str n.asStr),
    ("android_version", p.androidVersion.map .str), ("app_version", p.appVersion.map .str)]

/-! ## Pairing -/

/-- `device.pair.request` payload. -/
structure PairRequest where
  ephemeralPubkey : String
  deriving DecidableEq, Repr

def PairRequest.parse : Decoder PairRequest := fun json ↦ do
  let read ← record ["ephemeral_pubkey"] json
  let ephemeralPubkey ← required read "ephemeral_pubkey" string
  return { ephemeralPubkey }

def PairRequest.toValue (p : PairRequest) : Json :=
  .objSkipNone [("ephemeral_pubkey", some (.str p.ephemeralPubkey))]

@[simp]
theorem PairRequest.parse_toValue (p : PairRequest) : parse p.toValue = .ok p := by
  simp [parse, toValue, Json.objSkipNone, required, List.lookup_cons, bind, Except.bind, pure,
    Except.pure]

/-- `device.pair.challenge` payload. -/
structure PairChallenge where
  ephemeralPubkey : String
  code : String
  expiresAt : Int64
  deriving DecidableEq, Repr

def PairChallenge.parse : Decoder PairChallenge := fun json ↦ do
  let read ← record ["ephemeral_pubkey", "code", "expires_at"] json
  let ephemeralPubkey ← required read "ephemeral_pubkey" string
  let code ← required read "code" string
  let expiresAt ← required read "expires_at" i64
  return { ephemeralPubkey, code, expiresAt }

def PairChallenge.toValue (p : PairChallenge) : Json :=
  .objSkipNone [("ephemeral_pubkey", some (.str p.ephemeralPubkey)), ("code", some (.str p.code)),
    ("expires_at", some (.int p.expiresAt.toInt))]

@[simp]
theorem PairChallenge.parse_toValue (p : PairChallenge) : parse p.toValue = .ok p := by
  simp [parse, toValue, Json.objSkipNone, required, List.lookup_cons, bind, Except.bind, pure,
    Except.pure]

/-- `device.pair.confirm` payload. -/
structure PairConfirm where
  accepted : Bool
  deriving DecidableEq, Repr

def PairConfirm.parse : Decoder PairConfirm := fun json ↦ do
  let read ← record ["accepted"] json
  let accepted ← required read "accepted" bool
  return { accepted }

def PairConfirm.toValue (p : PairConfirm) : Json :=
  .objSkipNone [("accepted", some (.bool p.accepted))]

@[simp]
theorem PairConfirm.parse_toValue (p : PairConfirm) : parse p.toValue = .ok p := by
  simp [parse, toValue, Json.objSkipNone, required, List.lookup_cons, bind, Except.bind, pure,
    Except.pure]

/-- `device.pair.accept` payload (empty object). -/
structure PairAccept where
  deriving DecidableEq, Repr

def PairAccept.parse : Decoder PairAccept := fun json ↦ do
  let _ ← record [] json
  return {}

def PairAccept.toValue (_ : PairAccept) : Json := .objSkipNone []

/-- `device.pair.reject` payload. -/
structure PairReject where
  reason : Option String
  deriving DecidableEq, Repr

def PairReject.parse : Decoder PairReject := fun json ↦ do
  let read ← record ["reason"] json
  let reason ← optional read "reason" string
  return { reason }

def PairReject.toValue (p : PairReject) : Json := .objSkipNone [("reason", p.reason.map .str)]

/-- `device.pair.complete` payload. -/
structure PairComplete where
  certPem : String
  certFingerprint : String
  deriving DecidableEq, Repr

def PairComplete.parse : Decoder PairComplete := fun json ↦ do
  let read ← record ["cert_pem", "cert_fingerprint"] json
  let certPem ← required read "cert_pem" string
  let certFingerprint ← required read "cert_fingerprint" string
  return { certPem, certFingerprint }

def PairComplete.toValue (p : PairComplete) : Json :=
  .objSkipNone [("cert_pem", some (.str p.certPem)),
    ("cert_fingerprint", some (.str p.certFingerprint))]

@[simp]
theorem PairComplete.parse_toValue (p : PairComplete) : parse p.toValue = .ok p := by
  simp [parse, toValue, Json.objSkipNone, required, List.lookup_cons, bind, Except.bind, pure,
    Except.pure]

/-- `device.unpair` payload. -/
structure Unpair where
  reason : Option String
  deriving DecidableEq, Repr

def Unpair.parse : Decoder Unpair := fun json ↦ do
  let read ← record ["reason"] json
  let reason ← optional read "reason" string
  return { reason }

def Unpair.toValue (p : Unpair) : Json := .objSkipNone [("reason", p.reason.map .str)]

/-! ## Notifications -/

/-- `notification.received` payload. -/
structure NotificationReceived where
  id : String
  package : String
  appName : Option String
  title : String
  content : String
  postedAt : Int64
  isSensitive : Bool
  category : Option String
  deriving DecidableEq, Repr

def NotificationReceived.parse : Decoder NotificationReceived := fun json ↦ do
  let read ← record ["id", "package", "app_name", "title", "content", "posted_at", "is_sensitive",
    "category"] json
  let id ← required read "id" string
  let package ← required read "package" string
  let appName ← optional read "app_name" string
  let title ← required read "title" string
  let content ← required read "content" string
  let postedAt ← required read "posted_at" i64
  let isSensitive ← defaulted read "is_sensitive" bool false
  let category ← optional read "category" string
  return { id, package, appName, title, content, postedAt, isSensitive, category }

def NotificationReceived.toValue (p : NotificationReceived) : Json :=
  .objSkipNone [("id", some (.str p.id)), ("package", some (.str p.package)),
    ("app_name", p.appName.map .str), ("title", some (.str p.title)),
    ("content", some (.str p.content)), ("posted_at", some (.int p.postedAt.toInt)),
    ("is_sensitive", some (.bool p.isSensitive)), ("category", p.category.map .str)]

/-- `notification.dismissed` payload. -/
structure NotificationDismissed where
  id : String
  deriving DecidableEq, Repr

def NotificationDismissed.parse : Decoder NotificationDismissed := fun json ↦ do
  let read ← record ["id"] json
  let id ← required read "id" string
  return { id }

def NotificationDismissed.toValue (p : NotificationDismissed) : Json :=
  .objSkipNone [("id", some (.str p.id))]

@[simp]
theorem NotificationDismissed.parse_toValue (p : NotificationDismissed) :
    parse p.toValue = .ok p := by
  simp [parse, toValue, Json.objSkipNone, required, List.lookup_cons, bind, Except.bind, pure,
    Except.pure]

/-! ## SMS -/

/-- `sms.received` payload. -/
structure SmsReceived where
  id : String
  address : String
  body : String
  receivedAt : Int64
  simSlot : Option UInt8
  subscriptionId : Option Int32
  deriving DecidableEq, Repr

def SmsReceived.parse : Decoder SmsReceived := fun json ↦ do
  let read ← record ["id", "address", "body", "received_at", "sim_slot", "subscription_id"] json
  let id ← required read "id" string
  let address ← required read "address" string
  let body ← required read "body" string
  let receivedAt ← required read "received_at" i64
  let simSlot ← optional read "sim_slot" u8
  let subscriptionId ← optional read "subscription_id" i32
  return { id, address, body, receivedAt, simSlot, subscriptionId }

def SmsReceived.toValue (p : SmsReceived) : Json :=
  .objSkipNone [("id", some (.str p.id)), ("address", some (.str p.address)),
    ("body", some (.str p.body)), ("received_at", some (.int p.receivedAt.toInt)),
    ("sim_slot", p.simSlot.map fun n ↦ .int n.toNat),
    ("subscription_id", p.subscriptionId.map fun n ↦ .int n.toInt)]

/-- `sms.send.request` payload. -/
structure SmsSendRequest where
  recipient : String
  body : String
  subscriptionId : Option Int32
  deriving DecidableEq, Repr

def SmsSendRequest.parse : Decoder SmsSendRequest := fun json ↦ do
  let read ← record ["to", "body", "subscription_id"] json
  let recipient ← required read "to" string
  let body ← required read "body" string
  let subscriptionId ← optional read "subscription_id" i32
  return { recipient, body, subscriptionId }

def SmsSendRequest.toValue (p : SmsSendRequest) : Json :=
  .objSkipNone [("to", some (.str p.recipient)), ("body", some (.str p.body)),
    ("subscription_id", p.subscriptionId.map fun n ↦ .int n.toInt)]

@[simp]
theorem SmsSendRequest.parse_toValue (p : SmsSendRequest) : parse p.toValue = .ok p := by
  obtain ⟨recipient, body, subscriptionId⟩ := p
  cases subscriptionId <;>
    simp [parse, toValue, Json.objSkipNone, required, Serde.optional, List.lookup_cons, bind,
      Except.bind, pure, Except.pure, Except.map]

/-- `sms.send.result` payload. -/
structure SmsSendResult where
  requestId : Uuid
  ok : Bool
  errorCode : Option String
  errorMessage : Option String
  deriving DecidableEq, Repr

def SmsSendResult.parse : Decoder SmsSendResult := fun json ↦ do
  let read ← record ["request_id", "ok", "error_code", "error_message"] json
  let requestId ← required read "request_id" uuid
  let ok ← required read "ok" bool
  let errorCode ← optional read "error_code" string
  let errorMessage ← optional read "error_message" string
  return { requestId, ok, errorCode, errorMessage }

def SmsSendResult.toValue (p : SmsSendResult) : Json :=
  .objSkipNone [("request_id", some (.str p.requestId.toText)), ("ok", some (.bool p.ok)),
    ("error_code", p.errorCode.map .str), ("error_message", p.errorMessage.map .str)]

/-- `sms.list.request` payload. -/
structure SmsListRequest where
  limit : Option UInt32
  before : Option Int64
  deriving DecidableEq, Repr

def SmsListRequest.parse : Decoder SmsListRequest := fun json ↦ do
  let read ← record ["limit", "before"] json
  let limit ← optional read "limit" u32
  let before ← optional read "before" i64
  return { limit, before }

def SmsListRequest.toValue (p : SmsListRequest) : Json :=
  .objSkipNone [("limit", p.limit.map fun n ↦ .int n.toNat),
    ("before", p.before.map fun n ↦ .int n.toInt)]

/-- `sms.list.result` payload. -/
structure SmsListResult where
  messages : List SmsReceived
  deriving DecidableEq, Repr

def SmsListResult.parse : Decoder SmsListResult := fun json ↦ do
  let read ← record ["messages"] json
  let messages ← required read "messages" (sequence SmsReceived.parse)
  return { messages }

def SmsListResult.toValue (p : SmsListResult) : Json :=
  .objSkipNone [("messages", some (.arr (p.messages.map SmsReceived.toValue)))]

/-! ## Calls -/

/-- `call.state` payload. -/
structure CallState where
  state : CallStateKind
  phoneNumber : Option String
  callId : Option String
  contactName : Option String
  simSlot : Option UInt8
  deriving DecidableEq, Repr

def CallState.parse : Decoder CallState := fun json ↦ do
  let read ← record ["state", "phone_number", "call_id", "contact_name", "sim_slot"] json
  let state ← required read "state" (unitVariant CallStateKind.names)
  let phoneNumber ← optional read "phone_number" string
  let callId ← optional read "call_id" string
  let contactName ← optional read "contact_name" string
  let simSlot ← optional read "sim_slot" u8
  return { state, phoneNumber, callId, contactName, simSlot }

def CallState.toValue (p : CallState) : Json :=
  .objSkipNone [("state", some (.str p.state.asStr)), ("phone_number", p.phoneNumber.map .str),
    ("call_id", p.callId.map .str), ("contact_name", p.contactName.map .str),
    ("sim_slot", p.simSlot.map fun n ↦ .int n.toNat)]

/-- `call.incoming` payload. -/
structure CallIncoming where
  phoneNumber : String
  contactName : Option String
  simSlot : Option UInt8
  deriving DecidableEq, Repr

def CallIncoming.parse : Decoder CallIncoming := fun json ↦ do
  let read ← record ["phone_number", "contact_name", "sim_slot"] json
  let phoneNumber ← required read "phone_number" string
  let contactName ← optional read "contact_name" string
  let simSlot ← optional read "sim_slot" u8
  return { phoneNumber, contactName, simSlot }

def CallIncoming.toValue (p : CallIncoming) : Json :=
  .objSkipNone [("phone_number", some (.str p.phoneNumber)),
    ("contact_name", p.contactName.map .str), ("sim_slot", p.simSlot.map fun n ↦ .int n.toNat)]

/-- `call.answer.request` payload (empty). -/
structure CallAnswerRequest where
  deriving DecidableEq, Repr

def CallAnswerRequest.parse : Decoder CallAnswerRequest := fun json ↦ do
  let _ ← record [] json
  return {}

def CallAnswerRequest.toValue (_ : CallAnswerRequest) : Json := .objSkipNone []

/-- `call.end.request` payload (empty). -/
structure CallEndRequest where
  deriving DecidableEq, Repr

def CallEndRequest.parse : Decoder CallEndRequest := fun json ↦ do
  let _ ← record [] json
  return {}

def CallEndRequest.toValue (_ : CallEndRequest) : Json := .objSkipNone []

/-- `call.dial.request` payload. -/
structure CallDialRequest where
  number : String
  deriving DecidableEq, Repr

def CallDialRequest.parse : Decoder CallDialRequest := fun json ↦ do
  let read ← record ["number"] json
  let number ← required read "number" string
  return { number }

def CallDialRequest.toValue (p : CallDialRequest) : Json :=
  .objSkipNone [("number", some (.str p.number))]

/-- One entry of `call.history`. -/
structure CallHistoryEntry where
  phoneNumber : String
  contactName : Option String
  startedAt : Int64
  durationSeconds : Option UInt32
  direction : CallDirection
  simSlot : Option UInt8
  deriving DecidableEq, Repr

def CallHistoryEntry.parse : Decoder CallHistoryEntry := fun json ↦ do
  let read ← record ["phone_number", "contact_name", "started_at", "duration_seconds", "direction",
    "sim_slot"] json
  let phoneNumber ← required read "phone_number" string
  let contactName ← optional read "contact_name" string
  let startedAt ← required read "started_at" i64
  let durationSeconds ← optional read "duration_seconds" u32
  let direction ← required read "direction" (unitVariant CallDirection.names)
  let simSlot ← optional read "sim_slot" u8
  return { phoneNumber, contactName, startedAt, durationSeconds, direction, simSlot }

def CallHistoryEntry.toValue (p : CallHistoryEntry) : Json :=
  .objSkipNone [("phone_number", some (.str p.phoneNumber)),
    ("contact_name", p.contactName.map .str), ("started_at", some (.int p.startedAt.toInt)),
    ("duration_seconds", p.durationSeconds.map fun n ↦ .int n.toNat),
    ("direction", some (.str p.direction.asStr)), ("sim_slot", p.simSlot.map fun n ↦ .int n.toNat)]

/-- `call.history` payload. -/
structure CallHistory where
  entries : List CallHistoryEntry
  deriving DecidableEq, Repr

def CallHistory.parse : Decoder CallHistory := fun json ↦ do
  let read ← record ["entries"] json
  let entries ← required read "entries" (sequence CallHistoryEntry.parse)
  return { entries }

def CallHistory.toValue (p : CallHistory) : Json :=
  .objSkipNone [("entries", some (.arr (p.entries.map CallHistoryEntry.toValue)))]

end PhoneBridge.Proto
