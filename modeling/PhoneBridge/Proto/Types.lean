import PhoneBridge.Library.Serde
import PhoneBridge.Library.Kotlinx

/-!
# Wire-level types shared by the payloads

The enumerations of `types.rs` and `Types.kt` and the message types of `envelope.rs`, each with the
table of its wire strings.
-/

namespace PhoneBridge.Proto

open Library

/-- Stable device type. -/
inductive DeviceType
  | desktop
  | android
  deriving DecidableEq, Repr

/-- Active network transport. -/
inductive NetworkType
  | wifi
  | cellular
  | ethernet
  | none
  deriving DecidableEq, Repr

/-- Phone call state. -/
inductive CallStateKind
  | idle
  | ringing
  | offhook
  deriving DecidableEq, Repr

/-- Call direction. -/
inductive CallDirection
  | incoming
  | outgoing
  | missed
  deriving DecidableEq, Repr

def DeviceType.names : List (String × DeviceType) := [("desktop", .desktop), ("android", .android)]

def NetworkType.names : List (String × NetworkType) :=
  [("wifi", .wifi), ("cellular", .cellular), ("ethernet", .ethernet), ("none", .none)]

def CallStateKind.names : List (String × CallStateKind) :=
  [("idle", .idle), ("ringing", .ringing), ("offhook", .offhook)]

def CallDirection.names : List (String × CallDirection) :=
  [("incoming", .incoming), ("outgoing", .outgoing), ("missed", .missed)]

def DeviceType.asStr : DeviceType → String
  | .desktop => "desktop"
  | .android => "android"

def NetworkType.asStr : NetworkType → String
  | .wifi => "wifi"
  | .cellular => "cellular"
  | .ethernet => "ethernet"
  | .none => "none"

def CallStateKind.asStr : CallStateKind → String
  | .idle => "idle"
  | .ringing => "ringing"
  | .offhook => "offhook"

def CallDirection.asStr : CallDirection → String
  | .incoming => "incoming"
  | .outgoing => "outgoing"
  | .missed => "missed"

/-- All message types defined in the protocol v1. -/
inductive MessageType
  | deviceHello
  | deviceHeartbeat
  | deviceInfoUpdate
  | devicePairRequest
  | devicePairChallenge
  | devicePairConfirm
  | devicePairAccept
  | devicePairReject
  | devicePairComplete
  | deviceUnpair
  | notificationReceived
  | notificationDismissed
  | smsReceived
  | smsSendRequest
  | smsSendResult
  | smsListRequest
  | smsListResult
  | callState
  | callIncoming
  | callAnswerRequest
  | callEndRequest
  | callDialRequest
  | callHistory
  deriving DecidableEq, Repr

namespace MessageType

/-- The dotted wire string. -/
def asStr : MessageType → String
  | .deviceHello => "device.hello"
  | .deviceHeartbeat => "device.heartbeat"
  | .deviceInfoUpdate => "device.info.update"
  | .devicePairRequest => "device.pair.request"
  | .devicePairChallenge => "device.pair.challenge"
  | .devicePairConfirm => "device.pair.confirm"
  | .devicePairAccept => "device.pair.accept"
  | .devicePairReject => "device.pair.reject"
  | .devicePairComplete => "device.pair.complete"
  | .deviceUnpair => "device.unpair"
  | .notificationReceived => "notification.received"
  | .notificationDismissed => "notification.dismissed"
  | .smsReceived => "sms.received"
  | .smsSendRequest => "sms.send.request"
  | .smsSendResult => "sms.send.result"
  | .smsListRequest => "sms.list.request"
  | .smsListResult => "sms.list.result"
  | .callState => "call.state"
  | .callIncoming => "call.incoming"
  | .callAnswerRequest => "call.answer.request"
  | .callEndRequest => "call.end.request"
  | .callDialRequest => "call.dial.request"
  | .callHistory => "call.history"

/-- The name of the variant, as the debug format prints it. -/
def variant : MessageType → String
  | .deviceHello => "DeviceHello"
  | .deviceHeartbeat => "DeviceHeartbeat"
  | .deviceInfoUpdate => "DeviceInfoUpdate"
  | .devicePairRequest => "DevicePairRequest"
  | .devicePairChallenge => "DevicePairChallenge"
  | .devicePairConfirm => "DevicePairConfirm"
  | .devicePairAccept => "DevicePairAccept"
  | .devicePairReject => "DevicePairReject"
  | .devicePairComplete => "DevicePairComplete"
  | .deviceUnpair => "DeviceUnpair"
  | .notificationReceived => "NotificationReceived"
  | .notificationDismissed => "NotificationDismissed"
  | .smsReceived => "SmsReceived"
  | .smsSendRequest => "SmsSendRequest"
  | .smsSendResult => "SmsSendResult"
  | .smsListRequest => "SmsListRequest"
  | .smsListResult => "SmsListResult"
  | .callState => "CallState"
  | .callIncoming => "CallIncoming"
  | .callAnswerRequest => "CallAnswerRequest"
  | .callEndRequest => "CallEndRequest"
  | .callDialRequest => "CallDialRequest"
  | .callHistory => "CallHistory"

/-- Every message type. -/
def all : List MessageType :=
  [.deviceHello, .deviceHeartbeat, .deviceInfoUpdate, .devicePairRequest, .devicePairChallenge,
    .devicePairConfirm, .devicePairAccept, .devicePairReject, .devicePairComplete, .deviceUnpair,
    .notificationReceived, .notificationDismissed, .smsReceived, .smsSendRequest, .smsSendResult,
    .smsListRequest, .smsListResult, .callState, .callIncoming, .callAnswerRequest,
    .callEndRequest, .callDialRequest, .callHistory]

def names : List (String × MessageType) := all.map fun kind ↦ (kind.asStr, kind)

@[simp]
theorem lookup_asStr (kind : MessageType) : names.lookup kind.asStr = some kind := by
  cases kind <;> decide

end MessageType

@[simp]
theorem DeviceType.lookup_asStr (kind : DeviceType) : names.lookup kind.asStr = some kind := by
  cases kind <;> decide

@[simp]
theorem NetworkType.lookup_asStr (kind : NetworkType) : names.lookup kind.asStr = some kind := by
  cases kind <;> decide

@[simp]
theorem CallStateKind.lookup_asStr (kind : CallStateKind) :
    names.lookup kind.asStr = some kind := by
  cases kind <;> decide

@[simp]
theorem CallDirection.lookup_asStr (kind : CallDirection) :
    names.lookup kind.asStr = some kind := by
  cases kind <;> decide

end PhoneBridge.Proto
