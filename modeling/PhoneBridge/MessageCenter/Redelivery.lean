import PhoneBridge.MessageCenter.DeviceStore

/-!
# Events that arrive twice

The id of an envelope takes no part in what is stored. A notification or a message is stored under
the id in its payload and written anew each time, a call under a fresh number, and every hello is
logged. So an event that arrives again is stored again, unless its row is still the one it would
write.
-/

namespace PhoneBridge.MessageCenter

open Library Proto Net Storage

/-- The events of a phone that are stored under an id or a number. -/
def Business (env : Envelope) : Prop :=
  env.messageType = .notificationReceived ∨ env.messageType = .smsReceived ∨
    env.messageType = .callState ∨ env.messageType = .callIncoming ∨
    env.messageType = .callHistory ∨ env.messageType = .deviceHello

/-- The database after an envelope has been handled. -/
def storeAfter (stamp : Stamp) (env : Envelope) (db : Db) : Db :=
  match sinkCall env with
  | some call => centerSink stamp call db
  | none => db

/-- What the frame loop stores of an envelope. -/
theorem store_handled (center : Center Db) (ctx : WsContext) (conn : ConnId) (arrival : Arrival)
    (env : Envelope) :
    (center.handleEnvelope ctx centerSink conn arrival env).store =
      storeAfter arrival.sink env center.store :=
  center.store_handleEnvelope ctx centerSink conn arrival env

/-- The tables have the same rows with the same fields. -/
structure SameRows (t t' : Tables) : Prop where
  devices : t.devices.rows.Perm t'.devices.rows
  pairings : t.pairings.rows.Perm t'.pairings.rows
  sessions : t.sessions.rows.Perm t'.sessions.rows
  notifications : t.notifications.rows.Perm t'.notifications.rows
  smsMessages : t.smsMessages.rows.Perm t'.smsMessages.rows
  calls : t.calls.rows.Perm t'.calls.rows
  auditLog : t.auditLog.rows.Perm t'.auditLog.rows

theorem SameRows.refl (t : Tables) : SameRows t t :=
  ⟨.refl _, .refl _, .refl _, .refl _, .refl _, .refl _, .refl _⟩

/-- An event that may arrive again: its payload cannot be read, its device is unknown, or the row
that it would write is stored as it is. -/
def Repeatable (env : Envelope) (db : Db) : Prop :=
  match sinkCall env with
  | some (.onNotification _ deviceId n) => deviceId ∉ db.deviceIds ∨
    CenterSink.notificationRow deviceId n ∈ db.notifications.rows
  | some (.onSmsReceived _ deviceId sms) => deviceId ∉ db.deviceIds ∨
    CenterSink.smsRow deviceId sms ∈ db.smsMessages.rows
  | some (.onCallState _ deviceId _) | some (.onCallIncoming _ deviceId _) =>
    deviceId ∉ db.deviceIds
  | some (.onCallHistory _ deviceId history) => deviceId ∉ db.deviceIds ∨ history.entries = []
  | some (.onHello ..) => False
  | _ => True

/-! ## Each kind of event -/

section Kinds

variable (db : Db) (stamp : Stamp) (deviceId : Uuid)

theorem toTables_onNotification (n : NotificationReceived) :
    (CenterSink.onNotification deviceId db n).toTables =
      if deviceId ∈ db.deviceIds then { db.toTables with
        notifications := db.notifications.insertOrReplace (CenterSink.notificationRow deviceId n) }
      else db.toTables := toTables_insertNotification db _

theorem toTables_onSmsReceived (sms : SmsReceived) :
    (CenterSink.onSmsReceived deviceId db sms).toTables =
      if deviceId ∈ db.deviceIds then { db.toTables with
        smsMessages := db.smsMessages.insertOrReplace (CenterSink.smsRow deviceId sms) }
      else db.toTables := toTables_insertSms db _

theorem sameRows_onNotification (n : NotificationReceived) :
    SameRows (CenterSink.onNotification deviceId db n).toTables db.toTables ↔
      deviceId ∉ db.deviceIds ∨
        CenterSink.notificationRow deviceId n ∈ db.notifications.rows := by
  rw [toTables_onNotification]
  by_cases hknown : deviceId ∈ db.deviceIds
  · rw [if_pos hknown]
    simp only [hknown, not_true_eq_false, false_or]
    constructor
    · intro h
      exact db.notifications.insertOrReplace_perm.mp h.notifications
    · intro hrow
      exact { SameRows.refl db.toTables with
        notifications := db.notifications.insertOrReplace_perm.mpr hrow }
  · rw [if_neg hknown]
    exact iff_of_true (.refl _) (.inl hknown)

theorem sameRows_onSmsReceived (sms : SmsReceived) :
    SameRows (CenterSink.onSmsReceived deviceId db sms).toTables db.toTables ↔
      deviceId ∉ db.deviceIds ∨ CenterSink.smsRow deviceId sms ∈ db.smsMessages.rows := by
  rw [toTables_onSmsReceived]
  by_cases hknown : deviceId ∈ db.deviceIds
  · rw [if_pos hknown]
    simp only [hknown, not_true_eq_false, false_or]
    constructor
    · intro h
      exact db.smsMessages.insertOrReplace_perm.mp h.smsMessages
    · intro hrow
      exact { SameRows.refl db.toTables with
        smsMessages := db.smsMessages.insertOrReplace_perm.mpr hrow }
  · rw [if_neg hknown]
    exact iff_of_true (.refl _) (.inl hknown)

/-- Calls of a known device that come in one after the other are all appended. -/
theorem toTables_insertCalls {α : Type} (row : α → CallRow) (entries : List α)
    (hrows : ∀ entry, (row entry).deviceId = deviceId) :
    if deviceId ∈ db.deviceIds then
      (entries.foldl (fun db entry ↦ CenterSink.insertCall (row entry) db) db).calls.rows.length =
        db.calls.rows.length + entries.length
    else entries.foldl (fun db entry ↦ CenterSink.insertCall (row entry) db) db = db := by
  induction entries generalizing db with
  | nil => split <;> rfl
  | cons entry entries ih =>
    have htables := toTables_insertCall db (row entry)
    have hnext := ih (CenterSink.insertCall (row entry) db)
    rw [hrows] at htables
    by_cases hknown : deviceId ∈ db.deviceIds
    · rw [if_pos hknown] at htables ⊢
      have hstill : deviceId ∈ (CenterSink.insertCall (row entry) db).deviceIds := by
        rw [htables]
        exact hknown
      rw [if_pos hstill, htables] at hnext
      simp only [List.foldl_cons, hnext, NumberedTable.rows_insert, List.length_append,
        List.length_cons, List.length_nil]
      omega
    · rw [if_neg hknown] at htables ⊢
      rw [List.foldl_cons, Db.eq_of_toTables htables]
      have hrest := ih db
      rwa [if_neg hknown] at hrest

theorem sameRows_insertCalls {α : Type} (row : α → CallRow) (entries : List α)
    (hrows : ∀ entry, (row entry).deviceId = deviceId) :
    SameRows (entries.foldl (fun db entry ↦ CenterSink.insertCall (row entry) db) db).toTables
        db.toTables ↔ deviceId ∉ db.deviceIds ∨ entries = [] := by
  have hcalls := toTables_insertCalls db deviceId row entries hrows
  by_cases hknown : deviceId ∈ db.deviceIds
  · rw [if_pos hknown] at hcalls
    simp only [hknown, not_true_eq_false, false_or]
    constructor
    · intro h
      have hlength := h.calls.length_eq
      rw [hcalls] at hlength
      exact List.eq_nil_of_length_eq_zero (by omega)
    · rintro rfl
      exact .refl _
  · rw [if_neg hknown] at hcalls
    rw [hcalls]
    exact iff_of_true (.refl _) (.inl hknown)

theorem sameRows_insertCall (row : CallRow) :
    SameRows (CenterSink.insertCall row db).toTables db.toTables ↔
      row.deviceId ∉ db.deviceIds := by
  have hcalls := sameRows_insertCalls db row.deviceId (fun _ : Unit ↦ row) [()] fun _ ↦ rfl
  simpa using hcalls

theorem auditLog_upsertDevice (r : DeviceRow) :
    (warned db (db.upsertDevice r)).auditLog = db.auditLog :=
  upsertDevice_of_devices (fun t ↦ t.auditLog = db.auditLog) r fun _ ↦ rfl

theorem auditLog_touchDevice :
    (CenterSink.touchDevice stamp deviceId db).auditLog = db.auditLog :=
  warned_of_both (fun t ↦ t.auditLog = db.auditLog) rfl rfl

/-- Every hello is logged. -/
theorem not_sameRows_onHello (hello : DeviceHello) :
    ¬ SameRows (CenterSink.onHello stamp deviceId db hello).toTables db.toTables := by
  intro h
  have hlength := h.auditLog.length_eq
  have htouched : (CenterSink.touchDevice stamp deviceId (warned db (db.upsertDevice
      (CenterSink.helloRow stamp deviceId hello)))).auditLog = db.auditLog :=
    (auditLog_touchDevice ..).trans (auditLog_upsertDevice db _)
  rw [CenterSink.onHello, CenterSink.audit, toTables_insertAuditLog] at hlength
  simp only [NumberedTable.rows_insert, List.length_append, htouched] at hlength
  simp at hlength

/-- The calls of the sink that stand for the other kinds of envelopes. -/
theorem sinkCall_business {env : Envelope} (hbusiness : Business env) {call : SinkCall}
    (hcall : sinkCall env = some call) :
    match call with
    | .onNotification .. | .onSmsReceived .. | .onCallState .. | .onCallIncoming ..
    | .onCallHistory .. | .onHello .. => True
    | _ => False := by
  rcases hbusiness with htype | htype | htype | htype | htype | htype
  all_goals
    simp only [sinkCall, htype] at hcall
    obtain ⟨payload, -, rfl⟩ := Option.map_eq_some_iff.mp hcall
    trivial

end Kinds

/-- When the handling of an event leaves the rows as they are. -/
theorem sameRows_storeAfter_iff (stamp : Stamp) {env : Envelope} (hbusiness : Business env)
    (db : Db) :
    SameRows (storeAfter stamp env db).toTables db.toTables ↔ Repeatable env db := by
  unfold storeAfter Repeatable
  cases hcall : sinkCall env with
  | none => exact iff_of_true (.refl _) trivial
  | some call =>
    have hkind := sinkCall_business hbusiness hcall
    cases call with
    | onNotification _ deviceId n => exact sameRows_onNotification db deviceId n
    | onSmsReceived _ deviceId sms => exact sameRows_onSmsReceived db deviceId sms
    | onCallState _ deviceId state => exact sameRows_insertCall db _
    | onCallIncoming _ deviceId call => exact sameRows_insertCall db _
    | onCallHistory _ deviceId history =>
      exact sameRows_insertCalls db deviceId _ history.entries fun _ ↦ rfl
    | onHello _ deviceId hello =>
      exact iff_of_false (not_sameRows_onHello db stamp deviceId hello) id
    | _ => exact hkind.elim

/-- An event that arrives again leaves the rows as it finds them exactly when it may be repeated,
whatever has happened to the database since it first arrived. -/
theorem redelivery_is_idempotent_iff (db : Db) (first second : Stamp) {env : Envelope}
    (hbusiness : Business env) (between : List (Db → Db)) :
    let before := between.foldl (fun db change ↦ change db) (storeAfter first env db)
    SameRows (storeAfter second env before).toTables before.toTables ↔ Repeatable env before :=
  sameRows_storeAfter_iff second hbusiness _

/-- A notification or a message that arrives again at once may be repeated. -/
theorem repeatable_at_once (db : Db) (first : Stamp) {env : Envelope}
    (hkind : env.messageType = .notificationReceived ∨ env.messageType = .smsReceived) :
    Repeatable env (storeAfter first env db) := by
  unfold Repeatable storeAfter
  cases hcall : sinkCall env with
  | none => trivial
  | some call =>
    rcases hkind with htype | htype
    · simp only [sinkCall, htype] at hcall
      obtain ⟨n, -, rfl⟩ := Option.map_eq_some_iff.mp hcall
      simp only [centerSink, toTables_onNotification]
      split
      · exact .inr (by simp)
      · next hunknown => exact .inl hunknown
    · simp only [sinkCall, htype] at hcall
      obtain ⟨sms, -, rfl⟩ := Option.map_eq_some_iff.mp hcall
      simp only [centerSink, toTables_onSmsReceived]
      split
      · exact .inr (by simp)
      · next hunknown => exact .inl hunknown

/-! ## Samples -/

/-- A database that knows the phone 1. -/
def samplePhone : Db :=
  CenterSink.onHello { now := 1000, freshId := .nil } ⟨1⟩ .empty {
    name := "phone"
    deviceType := .android
    protocolVersion := 1
    pubkey := ""
    port := none
    manufacturer := none
    model := none
    hardwareId := none }

def sampleNews : NotificationReceived where
  id := "7"
  package := "chat"
  appName := none
  title := "Ann"
  content := "Hello"
  postedAt := 1000
  isSensitive := false
  category := none

def sampleNewsEnvelope : Envelope :=
  Envelope.new .nil 1000 .notificationReceived ⟨1⟩ sampleNews.toValue

/-- A notification that arrives twice in a row is stored once. -/
theorem sample_redelivery : SameRows
    (storeAfter { now := 2000, freshId := .nil } sampleNewsEnvelope
      (storeAfter { now := 1000, freshId := .nil } sampleNewsEnvelope samplePhone)).toTables
    (storeAfter { now := 1000, freshId := .nil } sampleNewsEnvelope samplePhone).toTables :=
  (redelivery_is_idempotent_iff samplePhone { now := 1000, freshId := .nil }
    { now := 2000, freshId := .nil } (.inl rfl) []).mpr (repeatable_at_once _ _ (.inl rfl))

/-- The notification has arrived, and the user has read it. -/
def sampleRead : Db :=
  let stored := storeAfter { now := 1000, freshId := .nil } sampleNewsEnvelope samplePhone
  warned stored (stored.markNotificationRead ⟨1⟩ "7")

theorem sampleRead_not_repeatable : ¬ Repeatable sampleNewsEnvelope sampleRead := by
  have hcall : sinkCall sampleNewsEnvelope = some (.onNotification .nil ⟨1⟩ sampleNews) := rfl
  have hknown : (⟨1⟩ : Uuid) ∈ sampleRead.deviceIds := List.mem_singleton_self _
  have hstored : sampleRead.notifications.rows =
      [{ CenterSink.notificationRow ⟨1⟩ sampleNews with read := true }] := rfl
  intro h
  simp only [Repeatable, hcall, hstored, hknown, not_true_eq_false, false_or,
    List.mem_singleton] at h
  cases congrArg NotificationRow.read h

/-- The notification arrives again and is unread. -/
theorem redelivery_undoes_the_read_mark : ¬ ∀ (db : Db) (first second : Stamp) (env : Envelope),
    Business env → ∀ between : List (Db → Db),
      let before := between.foldl (fun db change ↦ change db) (storeAfter first env db)
      SameRows (storeAfter second env before).toTables before.toTables := by
  intro h
  have hsame := h samplePhone { now := 1000, freshId := .nil } { now := 2000, freshId := .nil }
    sampleNewsEnvelope (.inl rfl) [fun db ↦ warned db (db.markNotificationRead ⟨1⟩ "7")]
  exact sampleRead_not_repeatable ((sameRows_storeAfter_iff _ (.inl rfl) _).mp hsame)

end PhoneBridge.MessageCenter
