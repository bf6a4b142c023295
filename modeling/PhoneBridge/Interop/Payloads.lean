import PhoneBridge.Android.Payloads
import PhoneBridge.Library.Interchange
import PhoneBridge.Proto.Payload

/-!
# Payloads on the other side

For each payload type, when a record of the phone and a record of the Rust side hold the same
values, and that each side reads what the other has written exactly as a record with the same
values. `notification.received` is the exception: its two records do not share their field names.
-/

namespace PhoneBridge.Interop

open Library Proto Android

variable {lexer : Kotlinx.Lexer}

section Enumerations

variable {α : Type} {names : List (String × α)} {asStr : α → String}

theorem unitVariant_eq_ok (h : ∀ kind, names.lookup (asStr kind) = some kind) (kind : α) :
    Serde.unitVariant names (.str (asStr kind)) = .ok kind := by
  simp [Serde.unitVariant, Serde.unitVariant.find, h]

theorem entry_eq_ok (h : ∀ kind, names.lookup (asStr kind) = some kind) (kind : α) :
    Kotlinx.entry names (.str (asStr kind)) = .ok kind := by
  simp [Kotlinx.entry, h]

end Enumerations

@[simp]
theorem unitVariant_deviceType (kind : DeviceType) :
    Serde.unitVariant DeviceType.names (.str kind.asStr) = .ok kind :=
  unitVariant_eq_ok DeviceType.lookup_asStr kind

@[simp]
theorem entry_deviceType (kind : DeviceType) :
    Kotlinx.entry DeviceType.names (.str kind.asStr) = .ok kind :=
  entry_eq_ok DeviceType.lookup_asStr kind

@[simp]
theorem unitVariant_callStateKind (kind : CallStateKind) :
    Serde.unitVariant CallStateKind.names (.str kind.asStr) = .ok kind :=
  unitVariant_eq_ok CallStateKind.lookup_asStr kind

@[simp]
theorem entry_callStateKind (kind : CallStateKind) :
    Kotlinx.entry CallStateKind.names (.str kind.asStr) = .ok kind :=
  entry_eq_ok CallStateKind.lookup_asStr kind

@[simp]
theorem unitVariant_callDirection (kind : CallDirection) :
    Serde.unitVariant CallDirection.names (.str kind.asStr) = .ok kind :=
  unitVariant_eq_ok CallDirection.lookup_asStr kind

@[simp]
theorem entry_callDirection (kind : CallDirection) :
    Kotlinx.entry CallDirection.names (.str kind.asStr) = .ok kind :=
  entry_eq_ok CallDirection.lookup_asStr kind

@[simp]
theorem unitVariant_networkType (kind : NetworkType) :
    Serde.unitVariant NetworkType.names (.str kind.asStr) = .ok kind :=
  unitVariant_eq_ok NetworkType.lookup_asStr kind

@[simp]
theorem entry_networkType (kind : NetworkType) :
    Kotlinx.entry NetworkType.names (.str kind.asStr) = .ok kind :=
  entry_eq_ok NetworkType.lookup_asStr kind

@[simp]
theorem optional_networkType {x y : Option NetworkType} :
    Serde.nullOr (Serde.unitVariant NetworkType.names)
      (Kotlinx.encodeNullable (fun kind ↦ .str kind.asStr) x) = .ok y ↔ x = y :=
  Interchange.serde_nullOr_same (by simp) unitVariant_networkType

@[simp]
theorem nullable_networkType {x y : Option NetworkType} :
    y.elim (.ok none) (Kotlinx.nullOr (Kotlinx.entry NetworkType.names) ∘
      fun kind ↦ Json.str kind.asStr) = .ok x ↔ x = y :=
  Interchange.kotlinx_nullOr_same (by simp) entry_networkType

theorem uuid_eq_ok {text : String} {id : Uuid} :
    uuid (.str text) = .ok id ↔ Uuid.parse text = some id := by
  cases h : Uuid.parse text <;> simp [uuid, h, bind, Except.bind]

/-! ## Device lifecycle -/

@[mk_iff]
structure SameDeviceHello (p : DeviceHelloPayload) (q : DeviceHello) : Prop where
  name : p.name = q.name
  deviceType : p.deviceType = q.deviceType
  protocolVersion : p.protocolVersion.toInt = q.protocolVersion.toNat
  pubkey : p.pubkey = q.pubkey
  port : Option.Rel (fun n m ↦ n.toInt = m.toNat) p.port q.port
  manufacturer : p.manufacturer = q.manufacturer
  model : p.model = q.model
  hardwareId : p.hardwareId = q.hardwareId

theorem SameDeviceHello.parse_encode {p : DeviceHelloPayload} {q : DeviceHello} :
    DeviceHello.parse p.encode = .ok q ↔ SameDeviceHello p q := by
  cases q
  simp [DeviceHello.parse, DeviceHelloPayload.encode, bind_eq_ok, Serde.required_eq_elim,
    Serde.optional_eq_elim, List.lookup_cons, Serde.u16_eq_ok, pure, Except.pure,
    sameDeviceHello_iff]

theorem SameDeviceHello.decode_toValue {p : DeviceHelloPayload} {q : DeviceHello} :
    DeviceHelloPayload.decode lexer q.toValue = .ok p ↔ SameDeviceHello p q := by
  cases p
  simp [DeviceHelloPayload.decode, DeviceHello.toValue, bind_eq_ok, Kotlinx.property_eq_elim,
    Kotlinx.nullable_eq_elim, Interchange.dataClass_objSkipNone, List.lookup_cons,
    Kotlinx.int_eq_ok, pure, Except.pure, sameDeviceHello_iff]
  grind

@[mk_iff]
structure SameDeviceHeartbeat (p : DeviceHeartbeatPayload) (q : DeviceHeartbeat) : Prop where
  rttMs : Option.Rel (fun n m ↦ n.toInt = m.toNat) p.rttMs q.rttMs

theorem SameDeviceHeartbeat.parse_encode {p : DeviceHeartbeatPayload} {q : DeviceHeartbeat} :
    DeviceHeartbeat.parse p.encode = .ok q ↔ SameDeviceHeartbeat p q := by
  cases q
  simp [DeviceHeartbeat.parse, DeviceHeartbeatPayload.encode, bind_eq_ok, Serde.optional_eq_elim,
    List.lookup_cons, pure, Except.pure, sameDeviceHeartbeat_iff]

theorem SameDeviceHeartbeat.decode_toValue {p : DeviceHeartbeatPayload} {q : DeviceHeartbeat} :
    DeviceHeartbeatPayload.decode lexer q.toValue = .ok p ↔ SameDeviceHeartbeat p q := by
  cases p
  simp [DeviceHeartbeatPayload.decode, DeviceHeartbeat.toValue, bind_eq_ok,
    Kotlinx.nullable_eq_elim, Interchange.dataClass_objSkipNone, List.lookup_cons, pure,
    Except.pure, sameDeviceHeartbeat_iff]

@[mk_iff]
structure SameDeviceInfoUpdate (p : DeviceInfoUpdatePayload) (q : DeviceInfoUpdate) : Prop where
  batteryLevel : Option.Rel (fun n m ↦ n.toInt = m.toNat) p.batteryLevel q.batteryLevel
  isCharging : p.isCharging = q.isCharging
  networkType : p.networkType = q.networkType
  androidVersion : p.androidVersion = q.androidVersion
  appVersion : p.appVersion = q.appVersion

theorem SameDeviceInfoUpdate.parse_encode {p : DeviceInfoUpdatePayload} {q : DeviceInfoUpdate} :
    DeviceInfoUpdate.parse p.encode = .ok q ↔ SameDeviceInfoUpdate p q := by
  cases q
  simp [DeviceInfoUpdate.parse, DeviceInfoUpdatePayload.encode, bind_eq_ok, Serde.optional_eq_elim,
    List.lookup_cons, pure, Except.pure, sameDeviceInfoUpdate_iff]

theorem SameDeviceInfoUpdate.decode_toValue {p : DeviceInfoUpdatePayload} {q : DeviceInfoUpdate} :
    DeviceInfoUpdatePayload.decode lexer q.toValue = .ok p ↔ SameDeviceInfoUpdate p q := by
  cases p
  simp [DeviceInfoUpdatePayload.decode, DeviceInfoUpdate.toValue, bind_eq_ok,
    Kotlinx.nullable_eq_elim, Interchange.dataClass_objSkipNone, List.lookup_cons, pure,
    Except.pure, sameDeviceInfoUpdate_iff]

/-! ## Pairing -/

@[mk_iff]
structure SamePairRequest (p : PairRequestPayload) (q : PairRequest) : Prop where
  ephemeralPubkey : p.ephemeralPubkey = q.ephemeralPubkey

theorem SamePairRequest.parse_encode {p : PairRequestPayload} {q : PairRequest} :
    PairRequest.parse p.encode = .ok q ↔ SamePairRequest p q := by
  cases q
  simp [PairRequest.parse, PairRequestPayload.encode, bind_eq_ok, Serde.required_eq_elim,
    List.lookup_cons, pure, Except.pure, samePairRequest_iff]

theorem SamePairRequest.decode_toValue {p : PairRequestPayload} {q : PairRequest} :
    PairRequestPayload.decode q.toValue = .ok p ↔ SamePairRequest p q := by
  cases p
  simp [PairRequestPayload.decode, PairRequest.toValue, bind_eq_ok, Kotlinx.property_eq_elim,
    Interchange.dataClass_objSkipNone, List.lookup_cons, pure, Except.pure, samePairRequest_iff]
  grind

@[mk_iff]
structure SamePairChallenge (p : PairChallengePayload) (q : PairChallenge) : Prop where
  ephemeralPubkey : p.ephemeralPubkey = q.ephemeralPubkey
  code : p.code = q.code
  expiresAt : p.expiresAt = q.expiresAt

theorem SamePairChallenge.parse_encode {p : PairChallengePayload} {q : PairChallenge} :
    PairChallenge.parse p.encode = .ok q ↔ SamePairChallenge p q := by
  cases q
  simp [PairChallenge.parse, PairChallengePayload.encode, bind_eq_ok, Serde.required_eq_elim,
    List.lookup_cons, pure, Except.pure, samePairChallenge_iff]

theorem SamePairChallenge.decode_toValue {p : PairChallengePayload} {q : PairChallenge} :
    PairChallengePayload.decode lexer q.toValue = .ok p ↔ SamePairChallenge p q := by
  cases p
  simp [PairChallengePayload.decode, PairChallenge.toValue, bind_eq_ok, Kotlinx.property_eq_elim,
    Interchange.dataClass_objSkipNone, List.lookup_cons, pure, Except.pure, samePairChallenge_iff]
  grind

@[mk_iff]
structure SamePairConfirm (p : PairConfirmPayload) (q : PairConfirm) : Prop where
  accepted : p.accepted = q.accepted

theorem SamePairConfirm.parse_encode {p : PairConfirmPayload} {q : PairConfirm} :
    PairConfirm.parse p.encode = .ok q ↔ SamePairConfirm p q := by
  cases q
  simp [PairConfirm.parse, PairConfirmPayload.encode, bind_eq_ok, Serde.required_eq_elim,
    List.lookup_cons, pure, Except.pure, samePairConfirm_iff]

theorem SamePairConfirm.decode_toValue {p : PairConfirmPayload} {q : PairConfirm} :
    PairConfirmPayload.decode lexer q.toValue = .ok p ↔ SamePairConfirm p q := by
  cases p
  simp [PairConfirmPayload.decode, PairConfirm.toValue, bind_eq_ok, Kotlinx.property_eq_elim,
    Interchange.dataClass_objSkipNone, List.lookup_cons, pure, Except.pure, samePairConfirm_iff]
  grind

@[mk_iff]
structure SamePairReject (p : PairRejectPayload) (q : PairReject) : Prop where
  reason : p.reason = q.reason

theorem SamePairReject.parse_encode {p : PairRejectPayload} {q : PairReject} :
    PairReject.parse p.encode = .ok q ↔ SamePairReject p q := by
  cases q
  simp [PairReject.parse, PairRejectPayload.encode, bind_eq_ok, Serde.optional_eq_elim,
    List.lookup_cons, pure, Except.pure, samePairReject_iff]

theorem SamePairReject.decode_toValue {p : PairRejectPayload} {q : PairReject} :
    PairRejectPayload.decode q.toValue = .ok p ↔ SamePairReject p q := by
  cases p
  simp [PairRejectPayload.decode, PairReject.toValue, bind_eq_ok, Kotlinx.nullable_eq_elim,
    Interchange.dataClass_objSkipNone, List.lookup_cons, pure, Except.pure, samePairReject_iff]

@[mk_iff]
structure SamePairComplete (p : PairCompletePayload) (q : PairComplete) : Prop where
  certPem : p.certPem = q.certPem
  certFingerprint : p.certFingerprint = q.certFingerprint

theorem SamePairComplete.parse_encode {p : PairCompletePayload} {q : PairComplete} :
    PairComplete.parse p.encode = .ok q ↔ SamePairComplete p q := by
  cases q
  simp [PairComplete.parse, PairCompletePayload.encode, bind_eq_ok, Serde.required_eq_elim,
    List.lookup_cons, pure, Except.pure, samePairComplete_iff]

theorem SamePairComplete.decode_toValue {p : PairCompletePayload} {q : PairComplete} :
    PairCompletePayload.decode q.toValue = .ok p ↔ SamePairComplete p q := by
  cases p
  simp [PairCompletePayload.decode, PairComplete.toValue, bind_eq_ok, Kotlinx.property_eq_elim,
    Interchange.dataClass_objSkipNone, List.lookup_cons, pure, Except.pure, samePairComplete_iff]
  grind

@[mk_iff]
structure SameUnpair (p : UnpairPayload) (q : Unpair) : Prop where
  reason : p.reason = q.reason

theorem SameUnpair.parse_encode {p : UnpairPayload} {q : Unpair} :
    Unpair.parse p.encode = .ok q ↔ SameUnpair p q := by
  cases q
  simp [Unpair.parse, UnpairPayload.encode, bind_eq_ok, Serde.optional_eq_elim, List.lookup_cons,
    pure, Except.pure, sameUnpair_iff]

theorem SameUnpair.decode_toValue {p : UnpairPayload} {q : Unpair} :
    UnpairPayload.decode q.toValue = .ok p ↔ SameUnpair p q := by
  cases p
  simp [UnpairPayload.decode, Unpair.toValue, bind_eq_ok, Kotlinx.nullable_eq_elim,
    Interchange.dataClass_objSkipNone, List.lookup_cons, pure, Except.pure, sameUnpair_iff]

/-! ## Notifications -/

@[mk_iff]
structure SameNotificationDismissed (p : NotificationDismissedPayload) (q :
    NotificationDismissed) : Prop where
  id : p.id = q.id

theorem SameNotificationDismissed.parse_encode {p : NotificationDismissedPayload} {q :
    NotificationDismissed} :
    NotificationDismissed.parse p.encode = .ok q ↔ SameNotificationDismissed p q := by
  cases q
  simp [NotificationDismissed.parse, NotificationDismissedPayload.encode, bind_eq_ok,
    Serde.required_eq_elim, List.lookup_cons, pure, Except.pure, sameNotificationDismissed_iff]

theorem SameNotificationDismissed.decode_toValue {p : NotificationDismissedPayload} {q :
    NotificationDismissed} :
    NotificationDismissedPayload.decode q.toValue = .ok p ↔ SameNotificationDismissed p q := by
  cases p
  simp [NotificationDismissedPayload.decode, NotificationDismissed.toValue, bind_eq_ok,
    Kotlinx.property_eq_elim, Interchange.dataClass_objSkipNone, List.lookup_cons, pure,
    Except.pure, sameNotificationDismissed_iff]
  grind

/-! ## SMS -/

@[mk_iff]
structure SameSmsReceived (p : SmsReceivedPayload) (q : SmsReceived) : Prop where
  id : p.id = q.id
  address : p.address = q.address
  body : p.body = q.body
  receivedAt : p.receivedAt = q.receivedAt
  simSlot : Option.Rel (fun n m ↦ n.toInt = m.toNat) p.simSlot q.simSlot
  subscriptionId : p.subscriptionId = q.subscriptionId

theorem SameSmsReceived.parse_encode {p : SmsReceivedPayload} {q : SmsReceived} :
    SmsReceived.parse p.encode = .ok q ↔ SameSmsReceived p q := by
  cases q
  simp [SmsReceived.parse, SmsReceivedPayload.encode, bind_eq_ok, Serde.required_eq_elim,
    Serde.optional_eq_elim, List.lookup_cons, pure, Except.pure, sameSmsReceived_iff]

theorem SameSmsReceived.decode_toValue {p : SmsReceivedPayload} {q : SmsReceived} :
    SmsReceivedPayload.decode lexer q.toValue = .ok p ↔ SameSmsReceived p q := by
  cases p
  simp [SmsReceivedPayload.decode, SmsReceived.toValue, bind_eq_ok, Kotlinx.property_eq_elim,
    Kotlinx.nullable_eq_elim, Interchange.dataClass_objSkipNone, List.lookup_cons, pure,
    Except.pure, sameSmsReceived_iff]
  grind

@[mk_iff]
structure SameSmsSendRequest (p : SmsSendRequestPayload) (q : SmsSendRequest) : Prop where
  recipient : p.recipient = q.recipient
  body : p.body = q.body
  subscriptionId : p.subscriptionId = q.subscriptionId

theorem SameSmsSendRequest.parse_encode {p : SmsSendRequestPayload} {q : SmsSendRequest} :
    SmsSendRequest.parse p.encode = .ok q ↔ SameSmsSendRequest p q := by
  cases q
  simp [SmsSendRequest.parse, SmsSendRequestPayload.encode, bind_eq_ok, Serde.required_eq_elim,
    Serde.optional_eq_elim, List.lookup_cons, pure, Except.pure, sameSmsSendRequest_iff]

theorem SameSmsSendRequest.decode_toValue {p : SmsSendRequestPayload} {q : SmsSendRequest} :
    SmsSendRequestPayload.decode lexer q.toValue = .ok p ↔ SameSmsSendRequest p q := by
  cases p
  simp [SmsSendRequestPayload.decode, SmsSendRequest.toValue, bind_eq_ok, Kotlinx.property_eq_elim,
    Kotlinx.nullable_eq_elim, Interchange.dataClass_objSkipNone, List.lookup_cons, pure,
    Except.pure, sameSmsSendRequest_iff]
  grind

@[mk_iff]
structure SameSmsSendResult (p : SmsSendResultPayload) (q : SmsSendResult) : Prop where
  requestId : Uuid.parse p.requestId = some q.requestId
  ok : p.ok = q.ok
  errorCode : p.errorCode = q.errorCode
  errorMessage : p.errorMessage = q.errorMessage

theorem SameSmsSendResult.parse_encode {p : SmsSendResultPayload} {q : SmsSendResult} :
    SmsSendResult.parse p.encode = .ok q ↔ SameSmsSendResult p q := by
  cases q
  simp [SmsSendResult.parse, SmsSendResultPayload.encode, bind_eq_ok, Serde.required_eq_elim,
    Serde.optional_eq_elim, List.lookup_cons, uuid_eq_ok, pure, Except.pure, sameSmsSendResult_iff]
  grind

theorem SameSmsSendResult.decode_toValue {p : SmsSendResultPayload} {q : SmsSendResult} :
    SmsSendResultPayload.decode lexer q.toValue = .ok p ↔ p.requestId = q.requestId.toText ∧
      SameSmsSendResult p q := by
  cases p
  simp [SmsSendResultPayload.decode, SmsSendResult.toValue, bind_eq_ok, Kotlinx.property_eq_elim,
    Kotlinx.nullable_eq_elim, Interchange.dataClass_objSkipNone, List.lookup_cons, pure,
    Except.pure, sameSmsSendResult_iff]
  grind [Uuid.parse_toText]

@[mk_iff]
structure SameSmsListRequest (p : SmsListRequestPayload) (q : SmsListRequest) : Prop where
  limit : Option.Rel (fun n m ↦ n.toInt = m.toNat) p.limit q.limit
  before : p.before = q.before

theorem SameSmsListRequest.parse_encode {p : SmsListRequestPayload} {q : SmsListRequest} :
    SmsListRequest.parse p.encode = .ok q ↔ SameSmsListRequest p q := by
  cases q
  simp [SmsListRequest.parse, SmsListRequestPayload.encode, bind_eq_ok, Serde.optional_eq_elim,
    List.lookup_cons, pure, Except.pure, sameSmsListRequest_iff]

theorem SameSmsListRequest.decode_toValue {p : SmsListRequestPayload} {q : SmsListRequest} :
    SmsListRequestPayload.decode lexer q.toValue = .ok p ↔ SameSmsListRequest p q := by
  cases p
  simp [SmsListRequestPayload.decode, SmsListRequest.toValue, bind_eq_ok, Kotlinx.nullable_eq_elim,
    Interchange.dataClass_objSkipNone, List.lookup_cons, pure, Except.pure, sameSmsListRequest_iff]

@[mk_iff]
structure SameSmsListResult (p : SmsListResultPayload) (q : SmsListResult) : Prop where
  messages : List.Forall₂ SameSmsReceived p.messages q.messages

theorem SameSmsListResult.parse_encode {p : SmsListResultPayload} {q : SmsListResult} :
    SmsListResult.parse p.encode = .ok q ↔ SameSmsListResult p q := by
  cases q
  have hitems := Interchange.mapM_eq_ok fun p q ↦ @SameSmsReceived.parse_encode p q
  simp [SmsListResult.parse, SmsListResultPayload.encode, bind_eq_ok, Serde.required_eq_elim,
    List.lookup_cons, Serde.sequence, hitems, pure, Except.pure, sameSmsListResult_iff]

theorem SameSmsListResult.decode_toValue {p : SmsListResultPayload} {q : SmsListResult} :
    SmsListResultPayload.decode lexer q.toValue = .ok p ↔ SameSmsListResult p q := by
  cases p
  have hitems := Interchange.mapM_eq_ok fun q p ↦ @SameSmsReceived.decode_toValue lexer p q
  simp [SmsListResultPayload.decode, SmsListResult.toValue, bind_eq_ok, Kotlinx.property_eq_elim,
    Interchange.dataClass_objSkipNone, List.lookup_cons, Kotlinx.list, hitems, pure, Except.pure,
    sameSmsListResult_iff]
  exact ⟨List.Forall₂.flip, List.Forall₂.flip⟩

/-! ## Calls -/

@[mk_iff]
structure SameCallState (p : CallStatePayload) (q : CallState) : Prop where
  state : p.state = q.state
  phoneNumber : p.phoneNumber = q.phoneNumber
  callId : p.callId = q.callId
  contactName : p.contactName = q.contactName
  simSlot : Option.Rel (fun n m ↦ n.toInt = m.toNat) p.simSlot q.simSlot

theorem SameCallState.parse_encode {p : CallStatePayload} {q : CallState} :
    CallState.parse p.encode = .ok q ↔ SameCallState p q := by
  cases q
  simp [CallState.parse, CallStatePayload.encode, bind_eq_ok, Serde.required_eq_elim,
    Serde.optional_eq_elim, List.lookup_cons, pure, Except.pure, sameCallState_iff]

theorem SameCallState.decode_toValue {p : CallStatePayload} {q : CallState} :
    CallStatePayload.decode lexer q.toValue = .ok p ↔ SameCallState p q := by
  cases p
  simp [CallStatePayload.decode, CallState.toValue, bind_eq_ok, Kotlinx.property_eq_elim,
    Kotlinx.nullable_eq_elim, Interchange.dataClass_objSkipNone, List.lookup_cons, pure,
    Except.pure, sameCallState_iff]
  grind

@[mk_iff]
structure SameCallIncoming (p : CallIncomingPayload) (q : CallIncoming) : Prop where
  phoneNumber : p.phoneNumber = q.phoneNumber
  contactName : p.contactName = q.contactName
  simSlot : Option.Rel (fun n m ↦ n.toInt = m.toNat) p.simSlot q.simSlot

theorem SameCallIncoming.parse_encode {p : CallIncomingPayload} {q : CallIncoming} :
    CallIncoming.parse p.encode = .ok q ↔ SameCallIncoming p q := by
  cases q
  simp [CallIncoming.parse, CallIncomingPayload.encode, bind_eq_ok, Serde.required_eq_elim,
    Serde.optional_eq_elim, List.lookup_cons, pure, Except.pure, sameCallIncoming_iff]

theorem SameCallIncoming.decode_toValue {p : CallIncomingPayload} {q : CallIncoming} :
    CallIncomingPayload.decode lexer q.toValue = .ok p ↔ SameCallIncoming p q := by
  cases p
  simp [CallIncomingPayload.decode, CallIncoming.toValue, bind_eq_ok, Kotlinx.property_eq_elim,
    Kotlinx.nullable_eq_elim, Interchange.dataClass_objSkipNone, List.lookup_cons, pure,
    Except.pure, sameCallIncoming_iff]
  grind

@[mk_iff]
structure SameCallDialRequest (p : CallDialRequestPayload) (q : CallDialRequest) : Prop where
  number : p.number = q.number

theorem SameCallDialRequest.parse_encode {p : CallDialRequestPayload} {q : CallDialRequest} :
    CallDialRequest.parse p.encode = .ok q ↔ SameCallDialRequest p q := by
  cases q
  simp [CallDialRequest.parse, CallDialRequestPayload.encode, bind_eq_ok, Serde.required_eq_elim,
    List.lookup_cons, pure, Except.pure, sameCallDialRequest_iff]

theorem SameCallDialRequest.decode_toValue {p : CallDialRequestPayload} {q : CallDialRequest} :
    CallDialRequestPayload.decode q.toValue = .ok p ↔ SameCallDialRequest p q := by
  cases p
  simp [CallDialRequestPayload.decode, CallDialRequest.toValue, bind_eq_ok,
    Kotlinx.property_eq_elim, Interchange.dataClass_objSkipNone, List.lookup_cons, pure,
    Except.pure, sameCallDialRequest_iff]
  grind

@[mk_iff]
structure SameCallHistoryEntry (p : CallHistoryEntryPayload) (q : CallHistoryEntry) : Prop where
  phoneNumber : p.phoneNumber = q.phoneNumber
  contactName : p.contactName = q.contactName
  startedAt : p.startedAt = q.startedAt
  durationSeconds : Option.Rel (fun n m ↦ n.toInt = m.toNat) p.durationSeconds q.durationSeconds
  direction : p.direction = q.direction
  simSlot : Option.Rel (fun n m ↦ n.toInt = m.toNat) p.simSlot q.simSlot

theorem SameCallHistoryEntry.parse_encode {p : CallHistoryEntryPayload} {q : CallHistoryEntry} :
    CallHistoryEntry.parse p.encode = .ok q ↔ SameCallHistoryEntry p q := by
  cases q
  simp [CallHistoryEntry.parse, CallHistoryEntryPayload.encode, bind_eq_ok, Serde.required_eq_elim,
    Serde.optional_eq_elim, List.lookup_cons, pure, Except.pure, sameCallHistoryEntry_iff]

theorem SameCallHistoryEntry.decode_toValue {p : CallHistoryEntryPayload} {q : CallHistoryEntry} :
    CallHistoryEntryPayload.decode lexer q.toValue = .ok p ↔ SameCallHistoryEntry p q := by
  cases p
  simp [CallHistoryEntryPayload.decode, CallHistoryEntry.toValue, bind_eq_ok,
    Kotlinx.property_eq_elim, Kotlinx.nullable_eq_elim, Interchange.dataClass_objSkipNone,
    List.lookup_cons, pure, Except.pure, sameCallHistoryEntry_iff]
  grind

@[mk_iff]
structure SameCallHistory (p : CallHistoryPayload) (q : CallHistory) : Prop where
  entries : List.Forall₂ SameCallHistoryEntry p.entries q.entries

theorem SameCallHistory.parse_encode {p : CallHistoryPayload} {q : CallHistory} :
    CallHistory.parse p.encode = .ok q ↔ SameCallHistory p q := by
  cases q
  have hitems := Interchange.mapM_eq_ok fun p q ↦ @SameCallHistoryEntry.parse_encode p q
  simp [CallHistory.parse, CallHistoryPayload.encode, bind_eq_ok, Serde.required_eq_elim,
    List.lookup_cons, Serde.sequence, hitems, pure, Except.pure, sameCallHistory_iff]

theorem SameCallHistory.decode_toValue {p : CallHistoryPayload} {q : CallHistory} :
    CallHistoryPayload.decode lexer q.toValue = .ok p ↔ SameCallHistory p q := by
  cases p
  have hitems := Interchange.mapM_eq_ok fun q p ↦ @SameCallHistoryEntry.decode_toValue lexer p q
  simp [CallHistoryPayload.decode, CallHistory.toValue, bind_eq_ok, Kotlinx.property_eq_elim,
    Interchange.dataClass_objSkipNone, List.lookup_cons, Kotlinx.list, hitems, pure, Except.pure,
    sameCallHistory_iff]
  exact ⟨List.Forall₂.flip, List.Forall₂.flip⟩

/-! ## The notification that is not read -/

structure SameNotificationReceived (p : NotificationReceivedPayload) (q : NotificationReceived) :
    Prop where
  id : p.id = q.id
  package : p.packageName = q.package
  appName : p.appName = q.appName
  title : p.title = q.title
  content : p.content = q.content
  postedAt : p.postedAt = q.postedAt
  isSensitive : p.isSensitive = q.isSensitive
  category : p.category = q.category

end PhoneBridge.Interop
