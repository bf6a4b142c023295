import PhoneBridge.Android.PayloadTexts
import PhoneBridge.Interop.Counterparts

/-!
# The payload types of the two implementations

Every payload type is a pair of records, selected by the message type of its envelope.
-/

namespace PhoneBridge.Interop

open Library Proto Android

/-- The phone's record for a message type. -/
def KotlinPayload (kind : MessageType) (Text : Type := String) : Type :=
  match kind with
  | .deviceHello => DeviceHelloPayload Text
  | .deviceHeartbeat => DeviceHeartbeatPayload
  | .deviceInfoUpdate => DeviceInfoUpdatePayload Text
  | .devicePairRequest => PairRequestPayload Text
  | .devicePairChallenge => PairChallengePayload Text
  | .devicePairConfirm => PairConfirmPayload
  | .devicePairAccept => PairAcceptPayload
  | .devicePairReject => PairRejectPayload Text
  | .devicePairComplete => PairCompletePayload Text
  | .deviceUnpair => UnpairPayload Text
  | .notificationReceived => NotificationReceivedPayload Text
  | .notificationDismissed => NotificationDismissedPayload Text
  | .smsReceived => SmsReceivedPayload Text
  | .smsSendRequest => SmsSendRequestPayload Text
  | .smsSendResult => SmsSendResultPayload Text
  | .smsListRequest => SmsListRequestPayload
  | .smsListResult => SmsListResultPayload Text
  | .callState => CallStatePayload Text
  | .callIncoming => CallIncomingPayload Text
  | .callAnswerRequest => CallAnswerRequestPayload
  | .callEndRequest => CallEndRequestPayload
  | .callDialRequest => CallDialRequestPayload Text
  | .callHistory => CallHistoryPayload Text

/-- The Rust side's record for a message type. -/
def RustPayload : MessageType → Type
  | .deviceHello => DeviceHello
  | .deviceHeartbeat => DeviceHeartbeat
  | .deviceInfoUpdate => DeviceInfoUpdate
  | .devicePairRequest => PairRequest
  | .devicePairChallenge => PairChallenge
  | .devicePairConfirm => PairConfirm
  | .devicePairAccept => PairAccept
  | .devicePairReject => PairReject
  | .devicePairComplete => PairComplete
  | .deviceUnpair => Unpair
  | .notificationReceived => NotificationReceived
  | .notificationDismissed => NotificationDismissed
  | .smsReceived => SmsReceived
  | .smsSendRequest => SmsSendRequest
  | .smsSendResult => SmsSendResult
  | .smsListRequest => SmsListRequest
  | .smsListResult => SmsListResult
  | .callState => CallState
  | .callIncoming => CallIncoming
  | .callAnswerRequest => CallAnswerRequest
  | .callEndRequest => CallEndRequest
  | .callDialRequest => CallDialRequest
  | .callHistory => CallHistory

/-- What the phone writes. -/
def encode : (kind : MessageType) → KotlinPayload kind → Json
  | .deviceHello => DeviceHelloPayload.encode
  | .deviceHeartbeat => DeviceHeartbeatPayload.encode
  | .deviceInfoUpdate => DeviceInfoUpdatePayload.encode
  | .devicePairRequest => PairRequestPayload.encode
  | .devicePairChallenge => PairChallengePayload.encode
  | .devicePairConfirm => PairConfirmPayload.encode
  | .devicePairAccept => PairAcceptPayload.encode
  | .devicePairReject => PairRejectPayload.encode
  | .devicePairComplete => PairCompletePayload.encode
  | .deviceUnpair => UnpairPayload.encode
  | .notificationReceived => NotificationReceivedPayload.encode
  | .notificationDismissed => NotificationDismissedPayload.encode
  | .smsReceived => SmsReceivedPayload.encode
  | .smsSendRequest => SmsSendRequestPayload.encode
  | .smsSendResult => SmsSendResultPayload.encode
  | .smsListRequest => SmsListRequestPayload.encode
  | .smsListResult => SmsListResultPayload.encode
  | .callState => CallStatePayload.encode
  | .callIncoming => CallIncomingPayload.encode
  | .callAnswerRequest => CallAnswerRequestPayload.encode
  | .callEndRequest => CallEndRequestPayload.encode
  | .callDialRequest => CallDialRequestPayload.encode
  | .callHistory => CallHistoryPayload.encode

/-- What the phone reads. -/
def decode (lexer : Kotlinx.Lexer) :
    (kind : MessageType) → Kotlinx.Decoder (KotlinPayload kind)
  | .deviceHello => DeviceHelloPayload.decode lexer
  | .deviceHeartbeat => DeviceHeartbeatPayload.decode lexer
  | .deviceInfoUpdate => DeviceInfoUpdatePayload.decode lexer
  | .devicePairRequest => PairRequestPayload.decode
  | .devicePairChallenge => PairChallengePayload.decode lexer
  | .devicePairConfirm => PairConfirmPayload.decode lexer
  | .devicePairAccept => PairAcceptPayload.decode
  | .devicePairReject => PairRejectPayload.decode
  | .devicePairComplete => PairCompletePayload.decode
  | .deviceUnpair => UnpairPayload.decode
  | .notificationReceived => NotificationReceivedPayload.decode lexer
  | .notificationDismissed => NotificationDismissedPayload.decode
  | .smsReceived => SmsReceivedPayload.decode lexer
  | .smsSendRequest => SmsSendRequestPayload.decode lexer
  | .smsSendResult => SmsSendResultPayload.decode lexer
  | .smsListRequest => SmsListRequestPayload.decode lexer
  | .smsListResult => SmsListResultPayload.decode lexer
  | .callState => CallStatePayload.decode lexer
  | .callIncoming => CallIncomingPayload.decode lexer
  | .callAnswerRequest => CallAnswerRequestPayload.decode
  | .callEndRequest => CallEndRequestPayload.decode
  | .callDialRequest => CallDialRequestPayload.decode
  | .callHistory => CallHistoryPayload.decode lexer

/-- What the Rust side writes. -/
def toValue : (kind : MessageType) → RustPayload kind → Json
  | .deviceHello => DeviceHello.toValue
  | .deviceHeartbeat => DeviceHeartbeat.toValue
  | .deviceInfoUpdate => DeviceInfoUpdate.toValue
  | .devicePairRequest => PairRequest.toValue
  | .devicePairChallenge => PairChallenge.toValue
  | .devicePairConfirm => PairConfirm.toValue
  | .devicePairAccept => PairAccept.toValue
  | .devicePairReject => PairReject.toValue
  | .devicePairComplete => PairComplete.toValue
  | .deviceUnpair => Unpair.toValue
  | .notificationReceived => NotificationReceived.toValue
  | .notificationDismissed => NotificationDismissed.toValue
  | .smsReceived => SmsReceived.toValue
  | .smsSendRequest => SmsSendRequest.toValue
  | .smsSendResult => SmsSendResult.toValue
  | .smsListRequest => SmsListRequest.toValue
  | .smsListResult => SmsListResult.toValue
  | .callState => CallState.toValue
  | .callIncoming => CallIncoming.toValue
  | .callAnswerRequest => CallAnswerRequest.toValue
  | .callEndRequest => CallEndRequest.toValue
  | .callDialRequest => CallDialRequest.toValue
  | .callHistory => CallHistory.toValue

/-- What `parse_payload` reads for an envelope of this type. -/
def parsePayload : (kind : MessageType) → Serde.Decoder (RustPayload kind)
  | .deviceHello => DeviceHello.parse
  | .deviceHeartbeat => DeviceHeartbeat.parse
  | .deviceInfoUpdate => DeviceInfoUpdate.parse
  | .devicePairRequest => PairRequest.parse
  | .devicePairChallenge => PairChallenge.parse
  | .devicePairConfirm => PairConfirm.parse
  | .devicePairAccept => PairAccept.parse
  | .devicePairReject => PairReject.parse
  | .devicePairComplete => PairComplete.parse
  | .deviceUnpair => Unpair.parse
  | .notificationReceived => NotificationReceived.parse
  | .notificationDismissed => NotificationDismissed.parse
  | .smsReceived => SmsReceived.parse
  | .smsSendRequest => SmsSendRequest.parse
  | .smsSendResult => SmsSendResult.parse
  | .smsListRequest => SmsListRequest.parse
  | .smsListResult => SmsListResult.parse
  | .callState => CallState.parse
  | .callIncoming => CallIncoming.parse
  | .callAnswerRequest => CallAnswerRequest.parse
  | .callEndRequest => CallEndRequest.parse
  | .callDialRequest => CallDialRequest.parse
  | .callHistory => CallHistory.parse

/-- The two records hold the same values. -/
def Same : (kind : MessageType) → KotlinPayload kind → RustPayload kind → Prop
  | .deviceHello => SameDeviceHello
  | .deviceHeartbeat => SameDeviceHeartbeat
  | .deviceInfoUpdate => SameDeviceInfoUpdate
  | .devicePairRequest => SamePairRequest
  | .devicePairChallenge => SamePairChallenge
  | .devicePairConfirm => SamePairConfirm
  | .devicePairAccept => fun _ _ ↦ True
  | .devicePairReject => SamePairReject
  | .devicePairComplete => SamePairComplete
  | .deviceUnpair => SameUnpair
  | .notificationReceived => SameNotificationReceived
  | .notificationDismissed => SameNotificationDismissed
  | .smsReceived => SameSmsReceived
  | .smsSendRequest => SameSmsSendRequest
  | .smsSendResult => SameSmsSendResult
  | .smsListRequest => SameSmsListRequest
  | .smsListResult => SameSmsListResult
  | .callState => SameCallState
  | .callIncoming => SameCallIncoming
  | .callAnswerRequest => fun _ _ ↦ True
  | .callEndRequest => fun _ _ ↦ True
  | .callDialRequest => SameCallDialRequest
  | .callHistory => SameCallHistory

/-- The Rust side can hold the numbers and the request id, and the type is not
`notification.received`. -/
def RustReads : (kind : MessageType) → KotlinPayload kind → Prop
  | .deviceHello => fun (p : DeviceHelloPayload) ↦
    InRange 65536 p.protocolVersion ∧ ∀ n ∈ p.port, InRange 65536 n
  | .deviceHeartbeat => fun (p : DeviceHeartbeatPayload) ↦ ∀ n ∈ p.rttMs, 0 ≤ n.toInt
  | .deviceInfoUpdate => fun (p : DeviceInfoUpdatePayload) ↦ ∀ n ∈ p.batteryLevel, InRange 256 n
  | .notificationReceived => fun _ ↦ False
  | .smsReceived => fun (p : SmsReceivedPayload) ↦ ∀ n ∈ p.simSlot, InRange 256 n
  | .smsSendResult => fun (p : SmsSendResultPayload) ↦ (Uuid.parse p.requestId).isSome = true
  | .smsListRequest => fun (p : SmsListRequestPayload) ↦ ∀ n ∈ p.limit, 0 ≤ n.toInt
  | .smsListResult => fun (p : SmsListResultPayload) ↦
    ∀ m ∈ p.messages, ∀ n ∈ m.simSlot, InRange 256 n
  | .callState => fun (p : CallStatePayload) ↦ ∀ n ∈ p.simSlot, InRange 256 n
  | .callIncoming => fun (p : CallIncomingPayload) ↦ ∀ n ∈ p.simSlot, InRange 256 n
  | .callHistory => fun (p : CallHistoryPayload) ↦ ∀ e ∈ p.entries,
    (∀ n ∈ e.durationSeconds, 0 ≤ n.toInt) ∧ ∀ n ∈ e.simSlot, InRange 256 n
  | _ => fun _ ↦ True

/-- The phone can hold the numbers, and the type is not `notification.received`. -/
def KotlinReads : (kind : MessageType) → RustPayload kind → Prop
  | .deviceHeartbeat => fun (q : DeviceHeartbeat) ↦ ∀ n ∈ q.rttMs, n.toNat < 2147483648
  | .notificationReceived => fun _ ↦ False
  | .smsListRequest => fun (q : SmsListRequest) ↦ ∀ n ∈ q.limit, n.toNat < 2147483648
  | .callHistory => fun (q : CallHistory) ↦
    ∀ e ∈ q.entries, ∀ n ∈ e.durationSeconds, n.toNat < 2147483648
  | _ => fun _ ↦ True

/-! ## Texts -/

namespace KotlinPayload

variable {α β γ : Type} {kind : MessageType}

/-- The phone's payload with its texts in another form. -/
def mapTexts (f : α → β) (p : KotlinPayload kind α) : KotlinPayload kind β :=
  match kind, p with
  | .deviceHello, p => DeviceHelloPayload.mapTexts f p
  | .deviceInfoUpdate, p => DeviceInfoUpdatePayload.mapTexts f p
  | .devicePairRequest, p => PairRequestPayload.mapTexts f p
  | .devicePairChallenge, p => PairChallengePayload.mapTexts f p
  | .devicePairReject, p => PairRejectPayload.mapTexts f p
  | .devicePairComplete, p => PairCompletePayload.mapTexts f p
  | .deviceUnpair, p => UnpairPayload.mapTexts f p
  | .notificationReceived, p => NotificationReceivedPayload.mapTexts f p
  | .notificationDismissed, p => NotificationDismissedPayload.mapTexts f p
  | .smsReceived, p => SmsReceivedPayload.mapTexts f p
  | .smsSendRequest, p => SmsSendRequestPayload.mapTexts f p
  | .smsSendResult, p => SmsSendResultPayload.mapTexts f p
  | .smsListResult, p => SmsListResultPayload.mapTexts f p
  | .callState, p => CallStatePayload.mapTexts f p
  | .callIncoming, p => CallIncomingPayload.mapTexts f p
  | .callDialRequest, p => CallDialRequestPayload.mapTexts f p
  | .callHistory, p => CallHistoryPayload.mapTexts f p
  | .deviceHeartbeat, p | .devicePairConfirm, p | .devicePairAccept, p | .smsListRequest, p
  | .callAnswerRequest, p | .callEndRequest, p => p

/-- The texts of the phone's payload. -/
def texts (p : KotlinPayload kind α) : List α :=
  match kind, p with
  | .deviceHello, p => DeviceHelloPayload.texts p
  | .deviceInfoUpdate, p => DeviceInfoUpdatePayload.texts p
  | .devicePairRequest, p => PairRequestPayload.texts p
  | .devicePairChallenge, p => PairChallengePayload.texts p
  | .devicePairReject, p => PairRejectPayload.texts p
  | .devicePairComplete, p => PairCompletePayload.texts p
  | .deviceUnpair, p => UnpairPayload.texts p
  | .notificationReceived, p => NotificationReceivedPayload.texts p
  | .notificationDismissed, p => NotificationDismissedPayload.texts p
  | .smsReceived, p => SmsReceivedPayload.texts p
  | .smsSendRequest, p => SmsSendRequestPayload.texts p
  | .smsSendResult, p => SmsSendResultPayload.texts p
  | .smsListResult, p => SmsListResultPayload.texts p
  | .callState, p => CallStatePayload.texts p
  | .callIncoming, p => CallIncomingPayload.texts p
  | .callDialRequest, p => CallDialRequestPayload.texts p
  | .callHistory, p => CallHistoryPayload.texts p
  | .deviceHeartbeat, _ | .devicePairConfirm, _ | .devicePairAccept, _ | .smsListRequest, _
  | .callAnswerRequest, _ | .callEndRequest, _ => []

/-- The texts of a payload in another form are its texts in that form. -/
theorem texts_mapTexts (f : α → β) (p : KotlinPayload kind α) :
    (p.mapTexts f).texts = p.texts.map f := by
  cases kind <;> simp [mapTexts, texts, List.map_flatMap, List.flatMap_map, Option.toList_map]

theorem mapTexts_mapTexts (f : α → β) (g : β → γ) (p : KotlinPayload kind α) :
    (p.mapTexts f).mapTexts g = p.mapTexts (g ∘ f) := by
  cases kind <;> simp [mapTexts, CallHistoryEntryPayload.mapTexts_comp] <;> rfl

/-- A payload whose texts stay as they are stays as it is. -/
theorem mapTexts_eq_self {f : α → α} {p : KotlinPayload kind α} (h : ∀ t ∈ p.texts, f t = t) :
    p.mapTexts f = p := by
  cases kind with
  | smsListResult =>
    have hmessages : p.messages.map (SmsReceivedPayload.mapTexts f) = p.messages := by
      refine list_map_eq_self.mpr fun m hm ↦ SmsReceivedPayload.mapTexts_eq_self fun t ht ↦ ?_
      exact h t (List.mem_flatMap.mpr ⟨m, hm, ht⟩)
    exact congrArg SmsListResultPayload.mk hmessages
  | callHistory =>
    have hentries : p.entries.map (CallHistoryEntryPayload.mapTexts f) = p.entries := by
      refine list_map_eq_self.mpr fun e he ↦ CallHistoryEntryPayload.mapTexts_eq_self fun t ht ↦ ?_
      exact h t (List.mem_flatMap.mpr ⟨e, he, ht⟩)
    exact congrArg CallHistoryPayload.mk hentries
  | _ =>
    -- the fields of the record, one after the other
    simp only [KotlinPayload] at p ⊢
    cases p
    simp [mapTexts, texts, option_map_eq_self] at h ⊢ <;> grind

/-- A form from which each text of the payload can be had again loses nothing of it. -/
theorem mapTexts_of_inverse {f : α → β} {g : β → α} {p : KotlinPayload kind α}
    (h : ∀ t ∈ p.texts, g (f t) = t) : (p.mapTexts f).mapTexts g = p := by
  rw [mapTexts_mapTexts]
  exact mapTexts_eq_self h

end KotlinPayload

end PhoneBridge.Interop
