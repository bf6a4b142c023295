import PhoneBridge.MessageCenter.CenterSink
import PhoneBridge.Storage.UpsertDevice

/-!
# The rows of one device

A database seen from one device: its own rows without their automatic numbers. Every statement that
names the device is an operation on this store alone, and every statement that names another device
leaves the device's rows as they are.
-/

namespace PhoneBridge.Storage

open Library

namespace Tables.Owned

/-- The rows without the numbers that the database has given them. -/
def unnumbered (o : Owned) : Owned where
  devices := o.devices.map fun row ↦ { row with id := 0 }
  pairings := o.pairings.map fun row ↦ { row with id := 0 }
  sessions := o.sessions.map fun row ↦ { row with id := 0 }
  notifications := o.notifications
  smsMessages := o.smsMessages
  calls := o.calls.map fun row ↦ { row with id := 0 }
  auditLog := o.auditLog.map fun row ↦ { row with id := 0 }

/-! ## What the statements do to a device's own rows -/

variable (o : Owned)

def insertNotification (n : NotificationRow) : Owned :=
  if o.devices = [] then o
  else { o with notifications := o.notifications.filter (·.id ≠ n.id) ++ [n] }

def markNotificationRead (notificationId : String) : Owned :=
  { o with notifications := o.notifications.map fun row ↦
      if row.id = notificationId then { row with read := true } else row }

def insertSms (s : SmsRow) : Owned :=
  if o.devices = [] then o
  else { o with smsMessages := o.smsMessages.filter (·.id ≠ s.id) ++ [s] }

def insertCall (c : CallRow) : Owned :=
  if o.devices = [] then o else { o with calls := o.calls ++ [{ c with id := 0 }] }

def touch (lastSeen : Int64) : Owned :=
  { o with devices := o.devices.map fun row ↦ { row with lastSeen } }

def audit (row : AuditLogRow) : Owned := { o with auditLog := o.auditLog ++ [{ row with id := 0 }] }

/-- Only the audit log outlives a device. -/
def remove : Owned where
  devices := []
  pairings := []
  sessions := []
  notifications := []
  smsMessages := []
  calls := []
  auditLog := o.auditLog

end Tables.Owned

instance (row other : DeviceRow) : Decidable (SameHardware row other) := by
  unfold SameHardware
  infer_instance

/-- A hello overwrites the row of the same phone, and merges into another row of the device id. -/
def Tables.Owned.upsert (o : Owned) (r : DeviceRow) : Owned :=
  { o with devices :=
      if o.devices = [] then [{ r with id := 0 }]
      else o.devices.map fun old ↦
        if SameHardware r old then { r with id := 0 } else { r.mergedWith old with id := 0 } }

/-- The rows of a device without their numbers. -/
def Tables.storeOf (t : Tables) (deviceId : Uuid) : Owned := (t.owned deviceId).unnumbered

end PhoneBridge.Storage

namespace PhoneBridge.MessageCenter

open Library Storage

variable {db : Db} {t : Tables} {deviceId other : Uuid}

/-! ## Statements whose failure is only logged -/

theorem warned_commit (h : t.Unique ∧ t.ForeignKeys) : (warned db t.commit).toTables = t := by
  obtain ⟨after, hafter⟩ := Tables.commit_succeeds.mpr h
  rw [hafter]
  exact Tables.commit_eq_ok.mp hafter

theorem warned_commit_of_not (h : ¬ (t.Unique ∧ t.ForeignKeys)) : warned db t.commit = db := by
  cases hcommit : t.commit with
  | error e => rfl
  | ok after => exact absurd (Tables.commit_succeeds.mp ⟨after, hcommit⟩) h

/-- What holds before a statement and of what it would write holds after it, whether it fails or
not. -/
theorem warned_of_both (P : Tables → Prop) (hdb : P db.toTables) (ht : P t) :
    P (warned db t.commit).toTables := by
  by_cases hconstraints : t.Unique ∧ t.ForeignKeys
  · rwa [warned_commit hconstraints]
  · rwa [warned_commit_of_not hconstraints]

/-- A statement that leaves a device's rows alone. -/
theorem warned_owned (h : t.owned deviceId = db.owned deviceId) :
    (warned db t.commit).owned deviceId = db.owned deviceId :=
  warned_of_both (fun t ↦ t.owned deviceId = db.owned deviceId) rfl h

/-- The upsert of a device writes to the devices only. -/
theorem upsertDevice_of_devices (P : Tables → Prop) (r : DeviceRow)
    (h : ∀ devices, P { db.toTables with devices }) :
    P (warned db (db.upsertDevice r)).toTables := by
  have hdb := h db.devices
  unfold Db.upsertDevice
  split
  · exact warned_of_both P hdb (h _)
  · apply warned_of_both P hdb
    unfold Tables.insertOrUpdateDevice
    split <;> exact h _

/-- A statement that changes neither device ids nor references cannot fail. -/
theorem constraints_of_same (hids : t.deviceIds = db.deviceIds)
    (hpairings : t.pairings.rows.map (·.deviceId) = db.pairings.rows.map (·.deviceId))
    (hreferences : ∀ id ∈ t.references, id ∈ db.references) : t.Unique ∧ t.ForeignKeys :=
  ⟨⟨hids ▸ db.unique.devices, hpairings ▸ db.unique.pairings⟩,
    fun id hid ↦ hids ▸ db.foreignKeys id (hreferences id hid)⟩

theorem devices_storeOf_eq_nil : (t.storeOf deviceId).devices = [] ↔ deviceId ∉ t.deviceIds := by
  simp [Tables.storeOf, Tables.Owned.unnumbered, Tables.owned, Tables.deviceIds]

/-- A statement that adds a reference to a device fails exactly when the device is unknown. -/
theorem warned_child (deviceId : Uuid) (hdevices : t.devices = db.devices)
    (hpairings : t.pairings = db.pairings)
    (hreferences : ∀ id, id ∈ t.references ↔ id ∈ db.references ∨ id = deviceId) :
    (warned db t.commit).toTables = if deviceId ∈ db.deviceIds then t else db.toTables := by
  split
  · next hknown =>
    obtain ⟨after, hafter, -⟩ := commit_of_known deviceId hdevices
      (by rw [hpairings]; exact db.unique.pairings) (fun id ↦ (hreferences id).mp) hknown
    rw [hafter]
    exact Tables.commit_eq_ok.mp hafter
  · next hunknown =>
    rw [warned_commit_of_not]
    rintro ⟨-, hforeign⟩
    have hparent := hforeign deviceId ((hreferences deviceId).mpr (.inr rfl))
    rw [Tables.deviceIds, hdevices] at hparent
    exact hunknown hparent

/-! ## Other devices -/

section Other

variable (db)

theorem owned_insertNotification {n : NotificationRow} (h : n.deviceId ≠ other) :
    (warned db (db.insertNotification n)).owned other = db.owned other := by
  have hrows : (db.notifications.insertOrReplace n).rows.filter (·.deviceId = other) = _ :=
    KeyedTable.filter_insertOrReplace_other h
  exact warned_owned (by simp only [Tables.owned, hrows])

theorem owned_markNotificationRead {id : String} (h : deviceId ≠ other) :
    (warned db (db.markNotificationRead deviceId id)).owned other = db.owned other := by
  refine warned_owned ?_
  simp only [Tables.owned, KeyedTable.rows_update]
  rw [filter_map_ite_of_not]
  rintro row - hrow
  simp at hrow
  simp [hrow.1, h]

theorem owned_insertSms {s : SmsRow} (h : s.deviceId ≠ other) :
    (warned db (db.insertSms s)).owned other = db.owned other := by
  have hrows : (db.smsMessages.insertOrReplace s).rows.filter (·.deviceId = other) = _ :=
    KeyedTable.filter_insertOrReplace_other h
  exact warned_owned (by simp only [Tables.owned, hrows])

theorem insertCall_eq (c : CallRow) : CenterSink.insertCall c db = warned db
    (Tables.commit { db.toTables with
      calls := db.calls.insert (fun id ↦ { c with id }) fun _ ↦ rfl }) := by
  simp only [CenterSink.insertCall, Db.insertCall]
  cases Tables.commit { db.toTables with
    calls := db.calls.insert (fun id ↦ { c with id }) fun _ ↦ rfl } <;> rfl

theorem owned_insertCall {c : CallRow} (h : c.deviceId ≠ other) :
    (CenterSink.insertCall c db).owned other = db.owned other := by
  rw [insertCall_eq]
  refine warned_owned ?_
  simp [Tables.owned, List.filter_append, h]

theorem owned_touchDevice {lastSeen : Int64} (h : deviceId ≠ other) :
    (warned db (db.touchDevice deviceId lastSeen)).owned other = db.owned other := by
  refine warned_owned ?_
  simp only [Tables.owned, NumberedTable.rows_update]
  rw [filter_map_ite_of_not]
  rintro row - hrow
  simp at hrow
  simp [hrow, h]

theorem owned_insertAuditLog {timestamp : Int64} {event : String} {detail : Option String}
    (h : deviceId ≠ other) :
    (warned db (db.insertAuditLog timestamp (some deviceId) event detail)).owned other =
      db.owned other := by
  refine warned_owned ?_
  simp [Tables.owned, List.filter_append, h]

theorem owned_removeDevice (h : deviceId ≠ other) :
    (warned db (db.removeDevice deviceId)).owned other = db.owned other := by
  refine warned_owned ?_
  simp only [Tables.owned, Tables.deleteDevice, NumberedTable.rows_delete,
    KeyedTable.rows_delete]
  rw [filter_delete_of_not, filter_delete_of_not, filter_delete_of_not, filter_delete_of_not,
    filter_delete_of_not, filter_delete_of_not]
  all_goals
    rintro row - hrow
    simp at hrow
    simp [hrow, h]

/-- An upsert changes the rows of another device only through a common hardware id. -/
theorem owned_upsertDevice {r : DeviceRow} (h : r.deviceId ≠ other)
    (hphone : ∀ row ∈ db.devices.rows, SameHardware r row → row.deviceId ≠ other) :
    (warned db (db.upsertDevice r)).owned other = db.owned other := by
  have hframe : ∀ {t : Tables} {old : Option DeviceRow} {new : DeviceRow},
      Replaced db t old new → new.deviceId = r.deviceId → (∀ row ∈ old, row.deviceId ≠ other) →
        t.owned other = db.owned other := by
    intro t old new hreplaced hnew hold
    have hdevices := hreplaced.frame (·.deviceId = other) (by simpa [hnew] using h)
      (by simpa using hold)
    rw [hreplaced.rest]
    simp only [Tables.owned, hdevices]
  unfold Db.upsertDevice
  split
  · next row hfound =>
    obtain ⟨hrow, hsame⟩ := findHardware_eq_some hfound
    exact warned_owned (hframe (replaced_refreshDevice hrow) rfl
      (by simpa using hphone row hrow hsame))
  · refine warned_owned ?_
    by_cases hknown : r.deviceId ∈ db.deviceIds
    · obtain ⟨row, hrow, hdevice⟩ := Tables.mem_deviceIds.mp hknown
      exact hframe (replaced_insertOrUpdate_known hrow hdevice) hdevice (by simpa [hdevice] using h)
    · exact hframe (replaced_insertOrUpdate_new hknown) rfl (by simp)

end Other

/-! ## The device that a statement names -/

section Own

variable (db)

/-- A line of the audit log always comes in. -/
theorem toTables_insertAuditLog (timestamp : Int64) (logged : Option Uuid) (event : String)
    (detail : Option String) :
    (warned db (db.insertAuditLog timestamp logged event detail)).toTables = { db.toTables with
      auditLog := db.auditLog.insert
        (fun id ↦ { id, timestamp, deviceId := logged, event, detail }) fun _ ↦ rfl } :=
  warned_commit (constraints_of_same (Eq.refl db.deviceIds) rfl fun _ h ↦ h)

/-- A row of a known device comes in, one of an unknown device is refused. -/
theorem toTables_insertNotification (n : NotificationRow) :
    (warned db (db.insertNotification n)).toTables =
      if n.deviceId ∈ db.deviceIds then
        { db.toTables with notifications := db.notifications.insertOrReplace n }
      else db.toTables :=
  warned_child n.deviceId rfl rfl fun _ ↦ mem_references_insertNotification db.toTables n

theorem toTables_insertSms (s : SmsRow) :
    (warned db (db.insertSms s)).toTables =
      if s.deviceId ∈ db.deviceIds then
        { db.toTables with smsMessages := db.smsMessages.insertOrReplace s }
      else db.toTables :=
  warned_child s.deviceId rfl rfl fun _ ↦ mem_references_insertSms db.toTables s

theorem toTables_insertCall (c : CallRow) :
    (CenterSink.insertCall c db).toTables =
      if c.deviceId ∈ db.deviceIds then
        { db.toTables with calls := db.calls.insert (fun id ↦ { c with id }) fun _ ↦ rfl }
      else db.toTables :=
  (congrArg Db.toTables (insertCall_eq db c)).trans <|
    warned_child c.deviceId rfl rfl fun _ ↦ mem_references_insertCall db.toTables c

/-- A row that comes in when the device is known changes the device's store when it is not empty. -/
theorem storeOf_child {after : Db}
    (h : after.toTables = if deviceId ∈ db.deviceIds then t else db.toTables) :
    after.storeOf deviceId =
      if (db.storeOf deviceId).devices = [] then db.storeOf deviceId else t.storeOf deviceId := by
  rw [h]
  by_cases hknown : deviceId ∈ db.deviceIds
  · rw [if_pos hknown, if_neg (by rw [devices_storeOf_eq_nil]; exact not_not_intro hknown)]
  · rw [if_neg hknown, if_pos (devices_storeOf_eq_nil.mpr hknown)]

theorem storeOf_insertNotification {n : NotificationRow} (h : n.deviceId = deviceId) :
    (warned db (db.insertNotification n)).storeOf deviceId =
      (db.storeOf deviceId).insertNotification n := by
  subst h
  have hrows : (db.notifications.insertOrReplace n).rows.filter (·.deviceId = n.deviceId) = _ :=
    KeyedTable.filter_insertOrReplace_own
  rw [storeOf_child db (toTables_insertNotification db n), Tables.Owned.insertNotification]
  congr 1
  simp only [Tables.storeOf, Tables.owned, Tables.Owned.unnumbered, hrows]

theorem storeOf_insertSms {s : SmsRow} (h : s.deviceId = deviceId) :
    (warned db (db.insertSms s)).storeOf deviceId = (db.storeOf deviceId).insertSms s := by
  subst h
  have hrows : (db.smsMessages.insertOrReplace s).rows.filter (·.deviceId = s.deviceId) = _ :=
    KeyedTable.filter_insertOrReplace_own
  rw [storeOf_child db (toTables_insertSms db s), Tables.Owned.insertSms]
  congr 1
  simp only [Tables.storeOf, Tables.owned, Tables.Owned.unnumbered, hrows]

theorem storeOf_insertCall {c : CallRow} (h : c.deviceId = deviceId) :
    (CenterSink.insertCall c db).storeOf deviceId = (db.storeOf deviceId).insertCall c := by
  subst h
  rw [storeOf_child db (toTables_insertCall db c), Tables.Owned.insertCall]
  simp [Tables.storeOf, Tables.owned, Tables.Owned.unnumbered, List.filter_append]

/-- Marking a notification as read cannot fail. -/
theorem constraints_markNotificationRead (deviceId : Uuid) (id : String) :
    let t : Tables := { db.toTables with
      notifications := db.notifications.update (fun row ↦ row.deviceId = deviceId ∧ row.id = id)
        (fun old ↦ { old with read := true }) fun _ ↦ rfl }
    t.Unique ∧ t.ForeignKeys := by
  have hids : ∀ row : NotificationRow, (if row.deviceId = deviceId ∧ row.id = id then
      { row with read := true } else row).deviceId = row.deviceId := fun row ↦ by
    split <;> rfl
  exact constraints_of_same (Eq.refl db.deviceIds) rfl fun other hother ↦ by
    simpa [Tables.references, Function.comp_def, hids] using hother

theorem storeOf_markNotificationRead {id : String} :
    (warned db (db.markNotificationRead deviceId id)).storeOf deviceId =
      (db.storeOf deviceId).markNotificationRead id := by
  have hrows : (warned db (db.markNotificationRead deviceId id)).toTables = _ :=
    warned_commit (constraints_markNotificationRead db deviceId id)
  rw [hrows]
  simp only [Tables.storeOf, Tables.owned, KeyedTable.rows_update]
  rw [filter_map_ite_of_keep (by simp)]
  simp only [Tables.Owned.unnumbered, Tables.Owned.markNotificationRead]
  congr 1
  refine List.map_congr_left fun row hrow ↦ ?_
  have hdevice : row.deviceId = deviceId := by simpa using (List.mem_filter.mp hrow).2
  simp [hdevice]

theorem storeOf_touchDevice {lastSeen : Int64} :
    (warned db (db.touchDevice deviceId lastSeen)).storeOf deviceId =
      (db.storeOf deviceId).touch lastSeen := by
  have hids : ∀ row : DeviceRow, (if row.deviceId = deviceId then
      { row with lastSeen } else row).deviceId = row.deviceId := fun row ↦ by
    split <;> rfl
  have hrows : (warned db (db.touchDevice deviceId lastSeen)).toTables = _ :=
    warned_commit (constraints_of_same (by simp [Tables.deviceIds, Function.comp_def, hids])
      (Eq.refl (db.pairings.rows.map (·.deviceId))) fun _ h ↦ h)
  rw [hrows]
  simp only [Tables.storeOf, Tables.owned, NumberedTable.rows_update]
  rw [filter_map_ite_of_keep (by simp)]
  simp only [Tables.Owned.unnumbered, Tables.Owned.touch, List.map_map]
  congr 1
  refine List.map_congr_left fun row hrow ↦ ?_
  have hdevice : row.deviceId = deviceId := by simpa using (List.mem_filter.mp hrow).2
  simp [hdevice]

theorem storeOf_insertAuditLog {timestamp : Int64} {event : String} {detail : Option String} :
    (warned db (db.insertAuditLog timestamp (some deviceId) event detail)).storeOf deviceId =
      (db.storeOf deviceId).audit { id := 0, timestamp, deviceId, event, detail } := by
  rw [toTables_insertAuditLog]
  simp [Tables.storeOf, Tables.owned, Tables.Owned.unnumbered, Tables.Owned.audit,
    List.filter_append]

/-- A removal cannot fail: the child rows go with the device. -/
theorem constraints_deleteDevice (deviceId : Uuid) :
    (db.deleteDevice deviceId).Unique ∧ (db.deleteDevice deviceId).ForeignKeys := by
  refine ⟨⟨?_, ?_⟩, fun id hid ↦ ?_⟩
  · exact db.unique.devices.sublist (List.filter_sublist.map _)
  · exact db.unique.pairings.sublist (List.filter_sublist.map _)
  · obtain ⟨hother, hused⟩ : id ≠ deviceId ∧ id ∈ db.references := by
      simp [Tables.references, Tables.deleteDevice] at hid ⊢
      grind
    obtain ⟨row, hrow, rfl⟩ := Tables.mem_deviceIds.mp (db.foreignKeys id hused)
    exact Tables.mem_deviceIds.mpr ⟨row, by simp [Tables.deleteDevice, hrow, hother], rfl⟩

theorem storeOf_removeDevice :
    (warned db (db.removeDevice deviceId)).storeOf deviceId = (db.storeOf deviceId).remove := by
  rw [Db.removeDevice, warned_commit (constraints_deleteDevice db deviceId)]
  simp [Tables.deleteDevice, Tables.storeOf, Tables.owned, Tables.Owned.unnumbered,
    Tables.Owned.remove, List.filter_filter]

/-- The own rows after a device row has come in that meets the constraints. -/
theorem storeOf_replaced {r new : DeviceRow} {old : Option DeviceRow}
    (hreplaced : Replaced db t old new) (hnew : new.deviceId = r.deviceId)
    (hconstraints : t.Unique ∧ t.ForeignKeys)
    (hupsert : ((db.storeOf r.deviceId).upsert r).devices = [{ new with id := 0 }]) :
    (warned db t.commit).storeOf r.deviceId = (db.storeOf r.deviceId).upsert r := by
  have hdevices : t.devices.rows.filter (·.deviceId = r.deviceId) = [new] := by
    rw [← hnew]
    exact hconstraints.1.filter_deviceId ((hreplaced.mem new).mpr (.inl rfl))
  have hstore : (db.storeOf r.deviceId).upsert r =
      { db.storeOf r.deviceId with devices := [{ new with id := 0 }] } := by
    rw [← hupsert]
    rfl
  rw [warned_commit hconstraints, hstore]
  rw [hreplaced.rest]
  simp only [Tables.storeOf, Tables.owned, Tables.Owned.unnumbered, hdevices, List.map_cons,
    List.map_nil]

/-- An upsert of a device with a hardware id of its own. -/
theorem storeOf_upsertDevice {r : DeviceRow} (h : r.deviceId = deviceId)
    (hphone : ∀ row ∈ db.devices.rows, SameHardware r row → row.deviceId = deviceId) :
    (warned db (db.upsertDevice r)).storeOf deviceId = (db.storeOf deviceId).upsert r := by
  subst h
  have hstored : ∀ row ∈ db.devices.rows, row.deviceId = r.deviceId →
      (db.storeOf r.deviceId).devices = [{ row with id := 0 }] := by
    intro row hrow hdevice
    have hdevices := db.unique.filter_deviceId hrow
    rw [hdevice] at hdevices
    simp only [Tables.storeOf, Tables.owned, Tables.Owned.unnumbered, hdevices, List.map_cons,
      List.map_nil]
  unfold Db.upsertDevice
  split
  · next row hfound =>
    obtain ⟨hrow, hsame⟩ := findHardware_eq_some hfound
    have hdevice := hphone row hrow hsame
    have hreplaced : Replaced db (db.refreshDevice row.id r) _ _ := replaced_refreshDevice hrow
    refine storeOf_replaced db hreplaced rfl (hreplaced.constraints
      (fun other hother hne heq ↦ hne ?_) (by simp [hdevice])) ?_
    · exact congrArg some (db.eq_of_deviceId_eq hother hrow (heq.trans hdevice.symm))
    · have hsame' : SameHardware r { row with id := 0 } := hsame
      simp [Tables.Owned.upsert, hstored row hrow hdevice, hsame']
  · next hfound =>
    have hnobody := findHardware_eq_none hfound
    by_cases hknown : r.deviceId ∈ db.deviceIds
    · obtain ⟨row, hrow, hdevice⟩ := Tables.mem_deviceIds.mp hknown
      have hreplaced : Replaced db (db.insertOrUpdateDevice r) _ _ :=
        replaced_insertOrUpdate_known hrow hdevice
      refine storeOf_replaced db hreplaced hdevice (hreplaced.constraints
        (fun other hother hne heq ↦ hne ?_) (by simp [DeviceRow.mergedWith])) ?_
      · exact congrArg some (db.eq_of_deviceId_eq hother hrow heq)
      · have hother : ¬ SameHardware r { row with id := 0 } := hnobody row hrow
        simp [Tables.Owned.upsert, hstored row hrow hdevice, hother, DeviceRow.mergedWith]
    · have hreplaced : Replaced db (db.insertOrUpdateDevice r) _ _ :=
        replaced_insertOrUpdate_new hknown
      refine storeOf_replaced db hreplaced rfl (hreplaced.constraints
        (fun other hother _ heq ↦ hknown (Tables.mem_deviceIds.mpr ⟨other, hother, heq⟩))
        (by simp)) ?_
      rw [Tables.Owned.upsert, if_pos (devices_storeOf_eq_nil.mpr hknown)]

end Own

end PhoneBridge.MessageCenter
