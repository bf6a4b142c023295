import PhoneBridge.Android.Payloads

/-!
# The texts of the phone's payloads

A payload of the phone with its texts in another form, and the texts that it holds.
-/

namespace PhoneBridge.Android

section Texts

variable {α β : Type} (f : α → β)

@[simp]
def DeviceHelloPayload.mapTexts (p : DeviceHelloPayload α) : DeviceHelloPayload β where
  name := f p.name
  deviceType := p.deviceType
  protocolVersion := p.protocolVersion
  pubkey := f p.pubkey
  port := p.port
  manufacturer := p.manufacturer.map f
  model := p.model.map f
  hardwareId := p.hardwareId.map f

@[simp]
def DeviceHelloPayload.texts (p : DeviceHelloPayload α) : List α :=
  [p.name, p.pubkey] ++ p.manufacturer.toList ++ p.model.toList ++ p.hardwareId.toList

@[simp]
def DeviceInfoUpdatePayload.mapTexts (p : DeviceInfoUpdatePayload α) :
    DeviceInfoUpdatePayload β where
  batteryLevel := p.batteryLevel
  isCharging := p.isCharging
  networkType := p.networkType
  androidVersion := p.androidVersion.map f
  appVersion := p.appVersion.map f

@[simp]
def DeviceInfoUpdatePayload.texts (p : DeviceInfoUpdatePayload α) : List α :=
  p.androidVersion.toList ++ p.appVersion.toList

@[simp]
def PairRequestPayload.mapTexts (p : PairRequestPayload α) : PairRequestPayload β where
  ephemeralPubkey := f p.ephemeralPubkey

@[simp]
def PairRequestPayload.texts (p : PairRequestPayload α) : List α := [p.ephemeralPubkey]

@[simp]
def PairChallengePayload.mapTexts (p : PairChallengePayload α) : PairChallengePayload β where
  ephemeralPubkey := f p.ephemeralPubkey
  code := f p.code
  expiresAt := p.expiresAt

@[simp]
def PairChallengePayload.texts (p : PairChallengePayload α) : List α := [p.ephemeralPubkey, p.code]

@[simp]
def PairRejectPayload.mapTexts (p : PairRejectPayload α) : PairRejectPayload β where
  reason := p.reason.map f

@[simp]
def PairRejectPayload.texts (p : PairRejectPayload α) : List α := p.reason.toList

@[simp]
def PairCompletePayload.mapTexts (p : PairCompletePayload α) : PairCompletePayload β where
  certPem := f p.certPem
  certFingerprint := f p.certFingerprint

@[simp]
def PairCompletePayload.texts (p : PairCompletePayload α) : List α := [p.certPem, p.certFingerprint]

@[simp]
def UnpairPayload.mapTexts (p : UnpairPayload α) : UnpairPayload β where
  reason := p.reason.map f

@[simp]
def UnpairPayload.texts (p : UnpairPayload α) : List α := p.reason.toList

@[simp]
def NotificationReceivedPayload.mapTexts (p : NotificationReceivedPayload α) :
    NotificationReceivedPayload β where
  id := f p.id
  packageName := f p.packageName
  appName := p.appName.map f
  title := f p.title
  content := f p.content
  postedAt := p.postedAt
  isSensitive := p.isSensitive
  category := p.category.map f

@[simp]
def NotificationReceivedPayload.texts (p : NotificationReceivedPayload α) : List α :=
  [p.id, p.packageName] ++ p.appName.toList ++ [p.title, p.content] ++ p.category.toList

@[simp]
def NotificationDismissedPayload.mapTexts (p : NotificationDismissedPayload α) :
    NotificationDismissedPayload β where
  id := f p.id

@[simp]
def NotificationDismissedPayload.texts (p : NotificationDismissedPayload α) : List α := [p.id]

@[simp]
def SmsReceivedPayload.mapTexts (p : SmsReceivedPayload α) : SmsReceivedPayload β where
  id := f p.id
  address := f p.address
  body := f p.body
  receivedAt := p.receivedAt
  simSlot := p.simSlot
  subscriptionId := p.subscriptionId

@[simp]
def SmsReceivedPayload.texts (p : SmsReceivedPayload α) : List α := [p.id, p.address, p.body]

@[simp]
def SmsSendRequestPayload.mapTexts (p : SmsSendRequestPayload α) : SmsSendRequestPayload β where
  recipient := f p.recipient
  body := f p.body
  subscriptionId := p.subscriptionId

@[simp]
def SmsSendRequestPayload.texts (p : SmsSendRequestPayload α) : List α := [p.recipient, p.body]

@[simp]
def SmsSendResultPayload.mapTexts (p : SmsSendResultPayload α) : SmsSendResultPayload β where
  requestId := f p.requestId
  ok := p.ok
  errorCode := p.errorCode.map f
  errorMessage := p.errorMessage.map f

@[simp]
def SmsSendResultPayload.texts (p : SmsSendResultPayload α) : List α :=
  [p.requestId] ++ p.errorCode.toList ++ p.errorMessage.toList

@[simp]
def SmsListResultPayload.mapTexts (p : SmsListResultPayload α) : SmsListResultPayload β where
  messages := p.messages.map (SmsReceivedPayload.mapTexts f)

@[simp]
def SmsListResultPayload.texts (p : SmsListResultPayload α) : List α :=
  p.messages.flatMap SmsReceivedPayload.texts

@[simp]
def CallStatePayload.mapTexts (p : CallStatePayload α) : CallStatePayload β where
  state := p.state
  phoneNumber := p.phoneNumber.map f
  callId := p.callId.map f
  contactName := p.contactName.map f
  simSlot := p.simSlot

@[simp]
def CallStatePayload.texts (p : CallStatePayload α) : List α :=
  p.phoneNumber.toList ++ p.callId.toList ++ p.contactName.toList

@[simp]
def CallIncomingPayload.mapTexts (p : CallIncomingPayload α) : CallIncomingPayload β where
  phoneNumber := f p.phoneNumber
  contactName := p.contactName.map f
  simSlot := p.simSlot

@[simp]
def CallIncomingPayload.texts (p : CallIncomingPayload α) : List α :=
  [p.phoneNumber] ++ p.contactName.toList

@[simp]
def CallDialRequestPayload.mapTexts (p : CallDialRequestPayload α) : CallDialRequestPayload β where
  number := f p.number

@[simp]
def CallDialRequestPayload.texts (p : CallDialRequestPayload α) : List α := [p.number]

@[simp]
def CallHistoryEntryPayload.mapTexts (p : CallHistoryEntryPayload α) :
    CallHistoryEntryPayload β where
  phoneNumber := f p.phoneNumber
  contactName := p.contactName.map f
  startedAt := p.startedAt
  durationSeconds := p.durationSeconds
  direction := p.direction
  simSlot := p.simSlot

@[simp]
def CallHistoryEntryPayload.texts (p : CallHistoryEntryPayload α) : List α :=
  [p.phoneNumber] ++ p.contactName.toList

@[simp]
def CallHistoryPayload.mapTexts (p : CallHistoryPayload α) : CallHistoryPayload β where
  entries := p.entries.map (CallHistoryEntryPayload.mapTexts f)

@[simp]
def CallHistoryPayload.texts (p : CallHistoryPayload α) : List α :=
  p.entries.flatMap CallHistoryEntryPayload.texts

end Texts

theorem CallHistoryEntryPayload.mapTexts_comp {α β γ : Type} (f : α → β) (g : β → γ) :
    mapTexts g ∘ mapTexts f = mapTexts (g ∘ f) := by
  funext p
  simp

section Unchanged

variable {α : Type} {f : α → α}

theorem option_map_eq_self {x : Option α} : x.map f = x ↔ ∀ t, x = some t → f t = t := by
  cases x <;> simp

theorem list_map_eq_self {xs : List α} : xs.map f = xs ↔ ∀ t ∈ xs, f t = t := by
  induction xs with
  | nil => simp
  | cons t xs ih => simp [ih]

theorem SmsReceivedPayload.mapTexts_eq_self {p : SmsReceivedPayload α}
    (h : ∀ t ∈ p.texts, f t = t) : p.mapTexts f = p := by
  cases p
  simpa using h

theorem CallHistoryEntryPayload.mapTexts_eq_self {p : CallHistoryEntryPayload α}
    (h : ∀ t ∈ p.texts, f t = t) : p.mapTexts f = p := by
  cases p
  simpa [option_map_eq_self] using h

end Unchanged

end PhoneBridge.Android
