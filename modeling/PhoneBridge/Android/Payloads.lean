import PhoneBridge.Proto.Types

/-!
# The payloads of the phone

The payload classes of `Payloads.kt`, each with what its generated serializer reads (`decode`) and
writes (`encode`). Defaults are written out, and so are absent values, as nulls. What a text is is a
parameter of the records: code units in the memory of the phone, a `String` on the wire.
-/

namespace PhoneBridge.Android

open Library Kotlinx Proto

variable (lexer : Lexer)

/-! ## Device lifecycle -/

structure DeviceHelloPayload (Text : Type := String) where
  name : Text
  deviceType : DeviceType
  protocolVersion : Int32
  pubkey : Text
  port : Option Int32 := none
  manufacturer : Option Text := none
  model : Option Text := none
  hardwareId : Option Text := none
  deriving DecidableEq, Repr

def DeviceHelloPayload.decode : Decoder DeviceHelloPayload := fun json ↦ do
  let read ← dataClass json
  let name ← property read "name" string
  let deviceType ← property read "device_type" (entry DeviceType.names)
  let protocolVersion ← property read "protocol_version" (int lexer)
  let pubkey ← property read "pubkey" string
  let port ← nullable read "port" (int lexer)
  let manufacturer ← nullable read "manufacturer" string
  let model ← nullable read "model" string
  let hardwareId ← nullable read "hardware_id" string
  return { name, deviceType, protocolVersion, pubkey, port, manufacturer, model, hardwareId }

def DeviceHelloPayload.encode (p : DeviceHelloPayload) : Json :=
  .obj [("name", .str p.name), ("device_type", .str p.deviceType.asStr),
    ("protocol_version", .int p.protocolVersion.toInt), ("pubkey", .str p.pubkey),
    ("port", encodeNullable (fun n ↦ .int n.toInt) p.port),
    ("manufacturer", encodeNullable .str p.manufacturer), ("model", encodeNullable .str p.model),
    ("hardware_id", encodeNullable .str p.hardwareId)]

structure DeviceHeartbeatPayload where
  rttMs : Option Int32 := none
  deriving DecidableEq, Repr

def DeviceHeartbeatPayload.decode : Decoder DeviceHeartbeatPayload := fun json ↦ do
  let read ← dataClass json
  let rttMs ← nullable read "rtt_ms" (int lexer)
  return { rttMs }

def DeviceHeartbeatPayload.encode (p : DeviceHeartbeatPayload) : Json :=
  .obj [("rtt_ms", encodeNullable (fun n ↦ .int n.toInt) p.rttMs)]

structure DeviceInfoUpdatePayload (Text : Type := String) where
  batteryLevel : Option Int32 := none
  isCharging : Option Bool := none
  networkType : Option NetworkType := none
  androidVersion : Option Text := none
  appVersion : Option Text := none
  deriving DecidableEq, Repr

def DeviceInfoUpdatePayload.decode : Decoder DeviceInfoUpdatePayload := fun json ↦ do
  let read ← dataClass json
  let batteryLevel ← nullable read "battery_level" (int lexer)
  let isCharging ← nullable read "is_charging" (boolean lexer)
  let networkType ← nullable read "network_type" (entry NetworkType.names)
  let androidVersion ← nullable read "android_version" string
  let appVersion ← nullable read "app_version" string
  return { batteryLevel, isCharging, networkType, androidVersion, appVersion }

def DeviceInfoUpdatePayload.encode (p : DeviceInfoUpdatePayload) : Json :=
  .obj [("battery_level", encodeNullable (fun n ↦ .int n.toInt) p.batteryLevel),
    ("is_charging", encodeNullable .bool p.isCharging),
    ("network_type", encodeNullable (fun kind ↦ .str kind.asStr) p.networkType),
    ("android_version", encodeNullable .str p.androidVersion),
    ("app_version", encodeNullable .str p.appVersion)]

/-! ## Pairing -/

structure PairRequestPayload (Text : Type := String) where
  ephemeralPubkey : Text
  deriving DecidableEq, Repr

def PairRequestPayload.decode : Decoder PairRequestPayload := fun json ↦ do
  let read ← dataClass json
  let ephemeralPubkey ← property read "ephemeral_pubkey" string
  return { ephemeralPubkey }

def PairRequestPayload.encode (p : PairRequestPayload) : Json :=
  .obj [("ephemeral_pubkey", .str p.ephemeralPubkey)]

structure PairChallengePayload (Text : Type := String) where
  ephemeralPubkey : Text
  code : Text
  expiresAt : Int64
  deriving DecidableEq, Repr

def PairChallengePayload.decode : Decoder PairChallengePayload := fun json ↦ do
  let read ← dataClass json
  let ephemeralPubkey ← property read "ephemeral_pubkey" string
  let code ← property read "code" string
  let expiresAt ← property read "expires_at" (long lexer)
  return { ephemeralPubkey, code, expiresAt }

def PairChallengePayload.encode (p : PairChallengePayload) : Json :=
  .obj [("ephemeral_pubkey", .str p.ephemeralPubkey), ("code", .str p.code),
    ("expires_at", .int p.expiresAt.toInt)]

structure PairConfirmPayload where
  accepted : Bool
  deriving DecidableEq, Repr

def PairConfirmPayload.decode : Decoder PairConfirmPayload := fun json ↦ do
  let read ← dataClass json
  let accepted ← property read "accepted" (boolean lexer)
  return { accepted }

def PairConfirmPayload.encode (p : PairConfirmPayload) : Json :=
  .obj [("accepted", .bool p.accepted)]

structure PairAcceptPayload where
  deriving DecidableEq, Repr

def PairAcceptPayload.decode : Decoder PairAcceptPayload := fun json ↦ do
  let _ ← dataClass json
  return {}

def PairAcceptPayload.encode (_ : PairAcceptPayload) : Json := .obj []

structure PairRejectPayload (Text : Type := String) where
  reason : Option Text := none
  deriving DecidableEq, Repr

def PairRejectPayload.decode : Decoder PairRejectPayload := fun json ↦ do
  let read ← dataClass json
  let reason ← nullable read "reason" string
  return { reason }

def PairRejectPayload.encode (p : PairRejectPayload) : Json :=
  .obj [("reason", encodeNullable .str p.reason)]

structure PairCompletePayload (Text : Type := String) where
  certPem : Text
  certFingerprint : Text
  deriving DecidableEq, Repr

def PairCompletePayload.decode : Decoder PairCompletePayload := fun json ↦ do
  let read ← dataClass json
  let certPem ← property read "cert_pem" string
  let certFingerprint ← property read "cert_fingerprint" string
  return { certPem, certFingerprint }

def PairCompletePayload.encode (p : PairCompletePayload) : Json :=
  .obj [("cert_pem", .str p.certPem), ("cert_fingerprint", .str p.certFingerprint)]

structure UnpairPayload (Text : Type := String) where
  reason : Option Text := none
  deriving DecidableEq, Repr

def UnpairPayload.decode : Decoder UnpairPayload := fun json ↦ do
  let read ← dataClass json
  let reason ← nullable read "reason" string
  return { reason }

def UnpairPayload.encode (p : UnpairPayload) : Json :=
  .obj [("reason", encodeNullable .str p.reason)]

/-! ## Notifications -/

structure NotificationReceivedPayload (Text : Type := String) where
  id : Text
  packageName : Text
  appName : Option Text := none
  title : Text
  content : Text
  postedAt : Int64
  isSensitive : Bool := false
  category : Option Text := none
  deriving DecidableEq, Repr

def NotificationReceivedPayload.decode : Decoder NotificationReceivedPayload := fun json ↦ do
  let read ← dataClass json
  let id ← property read "id" string
  let packageName ← property read "package_name" string
  let appName ← nullable read "app_name" string
  let title ← property read "title" string
  let content ← property read "content" string
  let postedAt ← property read "posted_at" (long lexer)
  let isSensitive ← defaulted read "is_sensitive" (boolean lexer) false
  let category ← nullable read "category" string
  return { id, packageName, appName, title, content, postedAt, isSensitive, category }

def NotificationReceivedPayload.encode (p : NotificationReceivedPayload) : Json :=
  .obj [("id", .str p.id), ("package_name", .str p.packageName),
    ("app_name", encodeNullable .str p.appName), ("title", .str p.title),
    ("content", .str p.content), ("posted_at", .int p.postedAt.toInt),
    ("is_sensitive", .bool p.isSensitive), ("category", encodeNullable .str p.category)]

structure NotificationDismissedPayload (Text : Type := String) where
  id : Text
  deriving DecidableEq, Repr

def NotificationDismissedPayload.decode : Decoder NotificationDismissedPayload := fun json ↦ do
  let read ← dataClass json
  let id ← property read "id" string
  return { id }

def NotificationDismissedPayload.encode (p : NotificationDismissedPayload) : Json :=
  .obj [("id", .str p.id)]

/-! ## SMS -/

structure SmsReceivedPayload (Text : Type := String) where
  id : Text
  address : Text
  body : Text
  receivedAt : Int64
  simSlot : Option Int32 := none
  subscriptionId : Option Int32 := none
  deriving DecidableEq, Repr

def SmsReceivedPayload.decode : Decoder SmsReceivedPayload := fun json ↦ do
  let read ← dataClass json
  let id ← property read "id" string
  let address ← property read "address" string
  let body ← property read "body" string
  let receivedAt ← property read "received_at" (long lexer)
  let simSlot ← nullable read "sim_slot" (int lexer)
  let subscriptionId ← nullable read "subscription_id" (int lexer)
  return { id, address, body, receivedAt, simSlot, subscriptionId }

def SmsReceivedPayload.encode (p : SmsReceivedPayload) : Json :=
  .obj [("id", .str p.id), ("address", .str p.address), ("body", .str p.body),
    ("received_at", .int p.receivedAt.toInt),
    ("sim_slot", encodeNullable (fun n ↦ .int n.toInt) p.simSlot),
    ("subscription_id", encodeNullable (fun n ↦ .int n.toInt) p.subscriptionId)]

structure SmsSendRequestPayload (Text : Type := String) where
  recipient : Text
  body : Text
  subscriptionId : Option Int32 := none
  deriving DecidableEq, Repr

def SmsSendRequestPayload.decode : Decoder SmsSendRequestPayload := fun json ↦ do
  let read ← dataClass json
  let recipient ← property read "to" string
  let body ← property read "body" string
  let subscriptionId ← nullable read "subscription_id" (int lexer)
  return { recipient, body, subscriptionId }

def SmsSendRequestPayload.encode (p : SmsSendRequestPayload) : Json :=
  .obj [("to", .str p.recipient), ("body", .str p.body),
    ("subscription_id", encodeNullable (fun n ↦ .int n.toInt) p.subscriptionId)]

structure SmsSendResultPayload (Text : Type := String) where
  requestId : Text
  ok : Bool
  errorCode : Option Text := none
  errorMessage : Option Text := none
  deriving DecidableEq, Repr

def SmsSendResultPayload.decode : Decoder SmsSendResultPayload := fun json ↦ do
  let read ← dataClass json
  let requestId ← property read "request_id" string
  let ok ← property read "ok" (boolean lexer)
  let errorCode ← nullable read "error_code" string
  let errorMessage ← nullable read "error_message" string
  return { requestId, ok, errorCode, errorMessage }

def SmsSendResultPayload.encode (p : SmsSendResultPayload) : Json :=
  .obj [("request_id", .str p.requestId), ("ok", .bool p.ok),
    ("error_code", encodeNullable .str p.errorCode),
    ("error_message", encodeNullable .str p.errorMessage)]

structure SmsListRequestPayload where
  limit : Option Int32 := none
  before : Option Int64 := none
  deriving DecidableEq, Repr

def SmsListRequestPayload.decode : Decoder SmsListRequestPayload := fun json ↦ do
  let read ← dataClass json
  let limit ← nullable read "limit" (int lexer)
  let before ← nullable read "before" (long lexer)
  return { limit, before }

def SmsListRequestPayload.encode (p : SmsListRequestPayload) : Json :=
  .obj [("limit", encodeNullable (fun n ↦ .int n.toInt) p.limit),
    ("before", encodeNullable (fun n ↦ .int n.toInt) p.before)]

structure SmsListResultPayload (Text : Type := String) where
  messages : List (SmsReceivedPayload Text)
  deriving DecidableEq, Repr

def SmsListResultPayload.decode : Decoder SmsListResultPayload := fun json ↦ do
  let read ← dataClass json
  let messages ← property read "messages" (list (SmsReceivedPayload.decode lexer))
  return { messages }

def SmsListResultPayload.encode (p : SmsListResultPayload) : Json :=
  .obj [("messages", .arr (p.messages.map SmsReceivedPayload.encode))]

/-! ## Calls -/

structure CallStatePayload (Text : Type := String) where
  state : CallStateKind
  phoneNumber : Option Text := none
  callId : Option Text := none
  contactName : Option Text := none
  simSlot : Option Int32 := none
  deriving DecidableEq, Repr

def CallStatePayload.decode : Decoder CallStatePayload := fun json ↦ do
  let read ← dataClass json
  let state ← property read "state" (entry CallStateKind.names)
  let phoneNumber ← nullable read "phone_number" string
  let callId ← nullable read "call_id" string
  let contactName ← nullable read "contact_name" string
  let simSlot ← nullable read "sim_slot" (int lexer)
  return { state, phoneNumber, callId, contactName, simSlot }

def CallStatePayload.encode (p : CallStatePayload) : Json :=
  .obj [("state", .str p.state.asStr), ("phone_number", encodeNullable .str p.phoneNumber),
    ("call_id", encodeNullable .str p.callId), ("contact_name", encodeNullable .str p.contactName),
    ("sim_slot", encodeNullable (fun n ↦ .int n.toInt) p.simSlot)]

structure CallIncomingPayload (Text : Type := String) where
  phoneNumber : Text
  contactName : Option Text := none
  simSlot : Option Int32 := none
  deriving DecidableEq, Repr

def CallIncomingPayload.decode : Decoder CallIncomingPayload := fun json ↦ do
  let read ← dataClass json
  let phoneNumber ← property read "phone_number" string
  let contactName ← nullable read "contact_name" string
  let simSlot ← nullable read "sim_slot" (int lexer)
  return { phoneNumber, contactName, simSlot }

def CallIncomingPayload.encode (p : CallIncomingPayload) : Json :=
  .obj [("phone_number", .str p.phoneNumber), ("contact_name", encodeNullable .str p.contactName),
    ("sim_slot", encodeNullable (fun n ↦ .int n.toInt) p.simSlot)]

structure CallAnswerRequestPayload where
  deriving DecidableEq, Repr

def CallAnswerRequestPayload.decode : Decoder CallAnswerRequestPayload := fun json ↦ do
  let _ ← dataClass json
  return {}

def CallAnswerRequestPayload.encode (_ : CallAnswerRequestPayload) : Json := .obj []

structure CallEndRequestPayload where
  deriving DecidableEq, Repr

def CallEndRequestPayload.decode : Decoder CallEndRequestPayload := fun json ↦ do
  let _ ← dataClass json
  return {}

def CallEndRequestPayload.encode (_ : CallEndRequestPayload) : Json := .obj []

structure CallDialRequestPayload (Text : Type := String) where
  number : Text
  deriving DecidableEq, Repr

def CallDialRequestPayload.decode : Decoder CallDialRequestPayload := fun json ↦ do
  let read ← dataClass json
  let number ← property read "number" string
  return { number }

def CallDialRequestPayload.encode (p : CallDialRequestPayload) : Json :=
  .obj [("number", .str p.number)]

structure CallHistoryEntryPayload (Text : Type := String) where
  phoneNumber : Text
  contactName : Option Text := none
  startedAt : Int64
  durationSeconds : Option Int32 := none
  direction : CallDirection
  simSlot : Option Int32 := none
  deriving DecidableEq, Repr

def CallHistoryEntryPayload.decode : Decoder CallHistoryEntryPayload := fun json ↦ do
  let read ← dataClass json
  let phoneNumber ← property read "phone_number" string
  let contactName ← nullable read "contact_name" string
  let startedAt ← property read "started_at" (long lexer)
  let durationSeconds ← nullable read "duration_seconds" (int lexer)
  let direction ← property read "direction" (entry CallDirection.names)
  let simSlot ← nullable read "sim_slot" (int lexer)
  return { phoneNumber, contactName, startedAt, durationSeconds, direction, simSlot }

def CallHistoryEntryPayload.encode (p : CallHistoryEntryPayload) : Json :=
  .obj [("phone_number", .str p.phoneNumber), ("contact_name", encodeNullable .str p.contactName),
    ("started_at", .int p.startedAt.toInt),
    ("duration_seconds", encodeNullable (fun n ↦ .int n.toInt) p.durationSeconds),
    ("direction", .str p.direction.asStr),
    ("sim_slot", encodeNullable (fun n ↦ .int n.toInt) p.simSlot)]

structure CallHistoryPayload (Text : Type := String) where
  entries : List (CallHistoryEntryPayload Text)
  deriving DecidableEq, Repr

def CallHistoryPayload.decode : Decoder CallHistoryPayload := fun json ↦ do
  let read ← dataClass json
  let entries ← property read "entries" (list (CallHistoryEntryPayload.decode lexer))
  return { entries }

def CallHistoryPayload.encode (p : CallHistoryPayload) : Json :=
  .obj [("entries", .arr (p.entries.map CallHistoryEntryPayload.encode))]

end PhoneBridge.Android
