import PhoneBridge.Interop.Payloads

/-!
# Which records have a counterpart

When a record of one side has a record of the other side with the same values: its numbers have to
fit the other side's integer types, and a request id has to be a UUID.
-/

namespace PhoneBridge.Interop

open Library Proto Android

/-! ## When a value has a counterpart -/

/-- A number of the phone that an unsigned type with this many values can hold. -/
def InRange (size : Int) (n : Int32) : Prop := 0 ≤ n.toInt ∧ n.toInt < size

instance (size : Int) (n : Int32) : Decidable (InRange size n) := by
  unfold InRange
  infer_instance

theorem unsigned_fits {β : Type} (type : Unsigned β) {n : Int32} :
    (∃ m, n.toInt = type.toNat m) ↔ InRange type.size n := by
  constructor
  · rintro ⟨m, hm⟩
    have hlt := type.toNat_lt m
    exact ⟨by omega, by omega⟩
  · rintro ⟨hlow, hhigh⟩
    exact ⟨type.ofNat n.toInt.toNat, by rw [type.toNat_ofNat _ (by omega)]; omega⟩

/-- The widest of the unsigned types holds every number of the phone that is not negative. -/
theorem uint32_fits {n : Int32} : (∃ m : UInt32, n.toInt = m.toNat) ↔ 0 ≤ n.toInt := by
  have hhigh := n.toInt_lt
  have hin : InRange uint32.size n ↔ 0 ≤ n.toInt := by
    simp only [InRange]
    omega
  exact (unsigned_fits uint32).trans hin

/-- A number of the Rust side that the phone's `Int` can hold. -/
theorem int32_fits {m : Nat} : (∃ n : Int32, n.toInt = m) ↔ m < 2147483648 := by
  constructor
  · rintro ⟨n, hn⟩
    have hlt := n.toInt_lt
    omega
  · intro hlt
    exact ⟨.ofInt m, Int32.toInt_ofInt_of_le (by omega) (by omega)⟩

theorem int32_of_unsigned {β : Type} (type : Unsigned β) (hsize : type.size ≤ 2147483648)
    (m : β) : ∃ n : Int32, n.toInt = type.toNat m :=
  int32_fits.mpr ((type.toNat_lt m).trans_le hsize)

section Containers

variable {α β : Type} {r : α → β → Prop}

theorem exists_option {p : α → Prop} (h : ∀ a, (∃ b, r a b) ↔ p a) {x : Option α} :
    (∃ y, Option.Rel r x y) ↔ ∀ a ∈ x, p a := by
  cases x with
  | none => exact ⟨fun _ ↦ by simp, fun _ ↦ ⟨none, .none⟩⟩
  | some a =>
    rw [show (∀ b ∈ some a, p b) ↔ p a by simp, ← h]
    constructor
    · rintro ⟨_, ⟨hb⟩⟩
      exact ⟨_, hb⟩
    · rintro ⟨b, hb⟩
      exact ⟨some b, .some hb⟩

theorem exists_list {p : α → Prop} (h : ∀ a, (∃ b, r a b) ↔ p a) {xs : List α} :
    (∃ ys, List.Forall₂ r xs ys) ↔ ∀ a ∈ xs, p a := by
  induction xs with
  | nil => exact ⟨fun _ ↦ by simp, fun _ ↦ ⟨[], .nil⟩⟩
  | cons a xs ih =>
    rw [List.forall_mem_cons, ← h, ← ih]
    constructor
    · rintro ⟨_, hys⟩
      cases hys with
      | cons hb hys => exact ⟨⟨_, hb⟩, _, hys⟩
    · rintro ⟨⟨b, hb⟩, ys, hys⟩
      exact ⟨b :: ys, .cons hb hys⟩

theorem option_rel_flip {x : Option α} {y : Option β} :
    Option.Rel (flip r) y x ↔ Option.Rel r x y := by
  cases x <;> cases y <;> simp [flip]

end Containers

theorem int32_option_of_unsigned {β : Type} (type : Unsigned β) (hsize : type.size ≤ 2147483648)
    (y : Option β) :
    ∃ x : Option Int32, Option.Rel (fun n m ↦ n.toInt = (type.toNat m : Int)) x y := by
  cases y with
  | none => exact ⟨none, .none⟩
  | some m =>
    obtain ⟨n, hn⟩ := int32_of_unsigned type hsize m
    exact ⟨some n, .some hn⟩

/-! ## Which records have a counterpart -/

theorem SameDeviceHello.exists_right (p : DeviceHelloPayload) :
    (∃ q, SameDeviceHello p q) ↔
      InRange 65536 p.protocolVersion ∧ ∀ n ∈ p.port, InRange 65536 n := by
  constructor
  · rintro ⟨q, hq⟩
    exact ⟨(unsigned_fits uint16).mp ⟨_, hq.protocolVersion⟩,
      (exists_option fun _ ↦ unsigned_fits uint16).mp ⟨_, hq.port⟩⟩
  · rintro ⟨hprotocolVersion, hport⟩
    obtain ⟨protocolVersion, hsameProtocolVersion⟩ := (unsigned_fits uint16).mpr hprotocolVersion
    obtain ⟨port, hsamePort⟩ := (exists_option fun _ ↦ unsigned_fits uint16).mpr hport
    exact ⟨⟨p.name, p.deviceType, protocolVersion, p.pubkey, port, p.manufacturer, p.model,
      p.hardwareId⟩,
      ⟨rfl, rfl, hsameProtocolVersion, rfl, hsamePort, rfl, rfl, rfl⟩⟩

theorem SameDeviceHello.exists_left (q : DeviceHello) : ∃ p, SameDeviceHello p q := by
  obtain ⟨protocolVersion, hsameProtocolVersion⟩ :=
    int32_of_unsigned uint16 (by decide) q.protocolVersion
  obtain ⟨port, hsamePort⟩ := int32_option_of_unsigned uint16 (by decide) q.port
  exact ⟨⟨q.name, q.deviceType, protocolVersion, q.pubkey, port, q.manufacturer, q.model,
    q.hardwareId⟩,
    ⟨rfl, rfl, hsameProtocolVersion, rfl, hsamePort, rfl, rfl, rfl⟩⟩

theorem SameDeviceHeartbeat.exists_right (p : DeviceHeartbeatPayload) :
    (∃ q, SameDeviceHeartbeat p q) ↔ ∀ n ∈ p.rttMs, 0 ≤ n.toInt := by
  constructor
  · rintro ⟨q, hq⟩
    exact (exists_option fun _ ↦ uint32_fits).mp ⟨_, hq.rttMs⟩
  · intro hrttMs
    obtain ⟨rttMs, hsameRttMs⟩ := (exists_option fun _ ↦ uint32_fits).mpr hrttMs
    exact ⟨⟨rttMs⟩, ⟨hsameRttMs⟩⟩

theorem SameDeviceHeartbeat.exists_left (q : DeviceHeartbeat) :
    (∃ p, SameDeviceHeartbeat p q) ↔ ∀ n ∈ q.rttMs, n.toNat < 2147483648 := by
  constructor
  · rintro ⟨p, hp⟩
    exact (exists_option fun _ ↦ int32_fits).mp ⟨_, option_rel_flip.mpr hp.rttMs⟩
  · intro hrttMs
    obtain ⟨rttMs, hsameRttMs⟩ := (exists_option fun _ ↦ int32_fits).mpr hrttMs
    exact ⟨⟨rttMs⟩, ⟨option_rel_flip.mp hsameRttMs⟩⟩

theorem SameDeviceInfoUpdate.exists_right (p : DeviceInfoUpdatePayload) :
    (∃ q, SameDeviceInfoUpdate p q) ↔ ∀ n ∈ p.batteryLevel, InRange 256 n := by
  constructor
  · rintro ⟨q, hq⟩
    exact (exists_option fun _ ↦ unsigned_fits uint8).mp ⟨_, hq.batteryLevel⟩
  · intro hbatteryLevel
    obtain ⟨batteryLevel, hsameBatteryLevel⟩ :=
      (exists_option fun _ ↦ unsigned_fits uint8).mpr hbatteryLevel
    exact ⟨⟨batteryLevel, p.isCharging, p.networkType, p.androidVersion, p.appVersion⟩,
      ⟨hsameBatteryLevel, rfl, rfl, rfl, rfl⟩⟩

theorem SameDeviceInfoUpdate.exists_left (q : DeviceInfoUpdate) : ∃ p,
    SameDeviceInfoUpdate p q := by
  obtain ⟨batteryLevel, hsameBatteryLevel⟩ :=
    int32_option_of_unsigned uint8 (by decide) q.batteryLevel
  exact ⟨⟨batteryLevel, q.isCharging, q.networkType, q.androidVersion, q.appVersion⟩,
    ⟨hsameBatteryLevel, rfl, rfl, rfl, rfl⟩⟩

theorem SamePairRequest.exists_right (p : PairRequestPayload) : ∃ q, SamePairRequest p q :=
  ⟨⟨p.ephemeralPubkey⟩, ⟨rfl⟩⟩

theorem SamePairRequest.exists_left (q : PairRequest) : ∃ p, SamePairRequest p q :=
  ⟨⟨q.ephemeralPubkey⟩, ⟨rfl⟩⟩

theorem SamePairChallenge.exists_right (p : PairChallengePayload) : ∃ q, SamePairChallenge p q :=
  ⟨⟨p.ephemeralPubkey, p.code, p.expiresAt⟩, ⟨rfl, rfl, rfl⟩⟩

theorem SamePairChallenge.exists_left (q : PairChallenge) : ∃ p, SamePairChallenge p q :=
  ⟨⟨q.ephemeralPubkey, q.code, q.expiresAt⟩, ⟨rfl, rfl, rfl⟩⟩

theorem SamePairConfirm.exists_right (p : PairConfirmPayload) : ∃ q, SamePairConfirm p q :=
  ⟨⟨p.accepted⟩, ⟨rfl⟩⟩

theorem SamePairConfirm.exists_left (q : PairConfirm) : ∃ p, SamePairConfirm p q :=
  ⟨⟨q.accepted⟩, ⟨rfl⟩⟩

theorem SamePairReject.exists_right (p : PairRejectPayload) : ∃ q, SamePairReject p q :=
  ⟨⟨p.reason⟩, ⟨rfl⟩⟩

theorem SamePairReject.exists_left (q : PairReject) : ∃ p, SamePairReject p q :=
  ⟨⟨q.reason⟩, ⟨rfl⟩⟩

theorem SamePairComplete.exists_right (p : PairCompletePayload) : ∃ q, SamePairComplete p q :=
  ⟨⟨p.certPem, p.certFingerprint⟩, ⟨rfl, rfl⟩⟩

theorem SamePairComplete.exists_left (q : PairComplete) : ∃ p, SamePairComplete p q :=
  ⟨⟨q.certPem, q.certFingerprint⟩, ⟨rfl, rfl⟩⟩

theorem SameUnpair.exists_right (p : UnpairPayload) : ∃ q, SameUnpair p q :=
  ⟨⟨p.reason⟩, ⟨rfl⟩⟩

theorem SameUnpair.exists_left (q : Unpair) : ∃ p, SameUnpair p q :=
  ⟨⟨q.reason⟩, ⟨rfl⟩⟩

theorem SameNotificationDismissed.exists_right (p : NotificationDismissedPayload) : ∃ q,
    SameNotificationDismissed p q :=
  ⟨⟨p.id⟩, ⟨rfl⟩⟩

theorem SameNotificationDismissed.exists_left (q : NotificationDismissed) : ∃ p,
    SameNotificationDismissed p q :=
  ⟨⟨q.id⟩, ⟨rfl⟩⟩

theorem SameSmsReceived.exists_right (p : SmsReceivedPayload) :
    (∃ q, SameSmsReceived p q) ↔ ∀ n ∈ p.simSlot, InRange 256 n := by
  constructor
  · rintro ⟨q, hq⟩
    exact (exists_option fun _ ↦ unsigned_fits uint8).mp ⟨_, hq.simSlot⟩
  · intro hsimSlot
    obtain ⟨simSlot, hsameSimSlot⟩ := (exists_option fun _ ↦ unsigned_fits uint8).mpr hsimSlot
    exact ⟨⟨p.id, p.address, p.body, p.receivedAt, simSlot, p.subscriptionId⟩,
      ⟨rfl, rfl, rfl, rfl, hsameSimSlot, rfl⟩⟩

theorem SameSmsReceived.exists_left (q : SmsReceived) : ∃ p, SameSmsReceived p q := by
  obtain ⟨simSlot, hsameSimSlot⟩ := int32_option_of_unsigned uint8 (by decide) q.simSlot
  exact ⟨⟨q.id, q.address, q.body, q.receivedAt, simSlot, q.subscriptionId⟩,
    ⟨rfl, rfl, rfl, rfl, hsameSimSlot, rfl⟩⟩

theorem SameSmsSendRequest.exists_right (p : SmsSendRequestPayload) : ∃ q, SameSmsSendRequest p q :=
  ⟨⟨p.recipient, p.body, p.subscriptionId⟩, ⟨rfl, rfl, rfl⟩⟩

theorem SameSmsSendRequest.exists_left (q : SmsSendRequest) : ∃ p, SameSmsSendRequest p q :=
  ⟨⟨q.recipient, q.body, q.subscriptionId⟩, ⟨rfl, rfl, rfl⟩⟩

theorem SameSmsListRequest.exists_right (p : SmsListRequestPayload) :
    (∃ q, SameSmsListRequest p q) ↔ ∀ n ∈ p.limit, 0 ≤ n.toInt := by
  constructor
  · rintro ⟨q, hq⟩
    exact (exists_option fun _ ↦ uint32_fits).mp ⟨_, hq.limit⟩
  · intro hlimit
    obtain ⟨limit, hsameLimit⟩ := (exists_option fun _ ↦ uint32_fits).mpr hlimit
    exact ⟨⟨limit, p.before⟩, ⟨hsameLimit, rfl⟩⟩

theorem SameSmsListRequest.exists_left (q : SmsListRequest) :
    (∃ p, SameSmsListRequest p q) ↔ ∀ n ∈ q.limit, n.toNat < 2147483648 := by
  constructor
  · rintro ⟨p, hp⟩
    exact (exists_option fun _ ↦ int32_fits).mp ⟨_, option_rel_flip.mpr hp.limit⟩
  · intro hlimit
    obtain ⟨limit, hsameLimit⟩ := (exists_option fun _ ↦ int32_fits).mpr hlimit
    exact ⟨⟨limit, q.before⟩, ⟨option_rel_flip.mp hsameLimit, rfl⟩⟩

theorem SameCallState.exists_right (p : CallStatePayload) :
    (∃ q, SameCallState p q) ↔ ∀ n ∈ p.simSlot, InRange 256 n := by
  constructor
  · rintro ⟨q, hq⟩
    exact (exists_option fun _ ↦ unsigned_fits uint8).mp ⟨_, hq.simSlot⟩
  · intro hsimSlot
    obtain ⟨simSlot, hsameSimSlot⟩ := (exists_option fun _ ↦ unsigned_fits uint8).mpr hsimSlot
    exact ⟨⟨p.state, p.phoneNumber, p.callId, p.contactName, simSlot⟩,
      ⟨rfl, rfl, rfl, rfl, hsameSimSlot⟩⟩

theorem SameCallState.exists_left (q : CallState) : ∃ p, SameCallState p q := by
  obtain ⟨simSlot, hsameSimSlot⟩ := int32_option_of_unsigned uint8 (by decide) q.simSlot
  exact ⟨⟨q.state, q.phoneNumber, q.callId, q.contactName, simSlot⟩,
    ⟨rfl, rfl, rfl, rfl, hsameSimSlot⟩⟩

theorem SameCallIncoming.exists_right (p : CallIncomingPayload) :
    (∃ q, SameCallIncoming p q) ↔ ∀ n ∈ p.simSlot, InRange 256 n := by
  constructor
  · rintro ⟨q, hq⟩
    exact (exists_option fun _ ↦ unsigned_fits uint8).mp ⟨_, hq.simSlot⟩
  · intro hsimSlot
    obtain ⟨simSlot, hsameSimSlot⟩ := (exists_option fun _ ↦ unsigned_fits uint8).mpr hsimSlot
    exact ⟨⟨p.phoneNumber, p.contactName, simSlot⟩, ⟨rfl, rfl, hsameSimSlot⟩⟩

theorem SameCallIncoming.exists_left (q : CallIncoming) : ∃ p, SameCallIncoming p q := by
  obtain ⟨simSlot, hsameSimSlot⟩ := int32_option_of_unsigned uint8 (by decide) q.simSlot
  exact ⟨⟨q.phoneNumber, q.contactName, simSlot⟩, ⟨rfl, rfl, hsameSimSlot⟩⟩

theorem SameCallDialRequest.exists_right (p : CallDialRequestPayload) : ∃ q,
    SameCallDialRequest p q :=
  ⟨⟨p.number⟩, ⟨rfl⟩⟩

theorem SameCallDialRequest.exists_left (q : CallDialRequest) : ∃ p, SameCallDialRequest p q :=
  ⟨⟨q.number⟩, ⟨rfl⟩⟩

theorem SameCallHistoryEntry.exists_right (p : CallHistoryEntryPayload) :
    (∃ q, SameCallHistoryEntry p q) ↔
      (∀ n ∈ p.durationSeconds, 0 ≤ n.toInt) ∧ ∀ n ∈ p.simSlot, InRange 256 n := by
  constructor
  · rintro ⟨q, hq⟩
    exact ⟨(exists_option fun _ ↦ uint32_fits).mp ⟨_, hq.durationSeconds⟩,
      (exists_option fun _ ↦ unsigned_fits uint8).mp ⟨_, hq.simSlot⟩⟩
  · rintro ⟨hdurationSeconds, hsimSlot⟩
    obtain ⟨durationSeconds, hsameDurationSeconds⟩ :=
      (exists_option fun _ ↦ uint32_fits).mpr hdurationSeconds
    obtain ⟨simSlot, hsameSimSlot⟩ := (exists_option fun _ ↦ unsigned_fits uint8).mpr hsimSlot
    exact ⟨⟨p.phoneNumber, p.contactName, p.startedAt, durationSeconds, p.direction, simSlot⟩,
      ⟨rfl, rfl, rfl, hsameDurationSeconds, rfl, hsameSimSlot⟩⟩

theorem SameCallHistoryEntry.exists_left (q : CallHistoryEntry) :
    (∃ p, SameCallHistoryEntry p q) ↔ ∀ n ∈ q.durationSeconds, n.toNat < 2147483648 := by
  constructor
  · rintro ⟨p, hp⟩
    exact (exists_option fun _ ↦ int32_fits).mp ⟨_, option_rel_flip.mpr hp.durationSeconds⟩
  · intro hdurationSeconds
    obtain ⟨durationSeconds, hsameDurationSeconds⟩ :=
      (exists_option fun _ ↦ int32_fits).mpr hdurationSeconds
    obtain ⟨simSlot, hsameSimSlot⟩ := int32_option_of_unsigned uint8 (by decide) q.simSlot
    exact ⟨⟨q.phoneNumber, q.contactName, q.startedAt, durationSeconds, q.direction, simSlot⟩,
      ⟨rfl, rfl, rfl, option_rel_flip.mp hsameDurationSeconds, rfl, hsameSimSlot⟩⟩

theorem SameSmsSendResult.exists_right (p : SmsSendResultPayload) :
    (∃ q, SameSmsSendResult p q) ↔ (Uuid.parse p.requestId).isSome = true := by
  constructor
  · rintro ⟨q, hq⟩
    simp [hq.requestId]
  · intro hid
    obtain ⟨id, hid⟩ := Option.isSome_iff_exists.mp hid
    exact ⟨⟨id, p.ok, p.errorCode, p.errorMessage⟩, ⟨hid, rfl, rfl, rfl⟩⟩

theorem SameSmsListResult.exists_right (p : SmsListResultPayload) :
    (∃ q, SameSmsListResult p q) ↔ ∀ m ∈ p.messages, ∀ n ∈ m.simSlot, InRange 256 n := by
  rw [← exists_list SameSmsReceived.exists_right]
  exact ⟨fun ⟨q, hq⟩ ↦ ⟨_, hq.messages⟩, fun ⟨messages, hmessages⟩ ↦ ⟨⟨messages⟩, ⟨hmessages⟩⟩⟩

theorem SameSmsListResult.exists_left (q : SmsListResult) : ∃ p, SameSmsListResult p q := by
  obtain ⟨messages, hmessages⟩ := (exists_list fun m ↦
    iff_true_intro (SameSmsReceived.exists_left m)).mpr fun m (_ : m ∈ q.messages) ↦ trivial
  exact ⟨⟨messages⟩, ⟨hmessages.flip⟩⟩

theorem SameCallHistory.exists_right (p : CallHistoryPayload) :
    (∃ q, SameCallHistory p q) ↔ ∀ e ∈ p.entries,
      (∀ n ∈ e.durationSeconds, 0 ≤ n.toInt) ∧ ∀ n ∈ e.simSlot, InRange 256 n := by
  rw [← exists_list SameCallHistoryEntry.exists_right]
  exact ⟨fun ⟨q, hq⟩ ↦ ⟨_, hq.entries⟩, fun ⟨entries, hentries⟩ ↦ ⟨⟨entries⟩, ⟨hentries⟩⟩⟩

theorem SameCallHistory.exists_left (q : CallHistory) :
    (∃ p, SameCallHistory p q) ↔
      ∀ e ∈ q.entries, ∀ n ∈ e.durationSeconds, n.toNat < 2147483648 := by
  rw [← exists_list SameCallHistoryEntry.exists_left]
  exact ⟨fun ⟨p, hp⟩ ↦ ⟨_, hp.entries.flip⟩,
    fun ⟨entries, hentries⟩ ↦ ⟨⟨entries⟩, ⟨hentries.flip⟩⟩⟩

end PhoneBridge.Interop
