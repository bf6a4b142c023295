import PhoneBridge.Library.Service
import PhoneBridge.MessageCenter.PairedMarks
import PhoneBridge.Storage.ConcurrentUpserts
import PhoneBridge.Storage.Records

/-!
# The tables refine the records

Every statement does to the records of the tables what it does to records, with the same errors and
the same answer, and so does every sequence of statements on a new database.
-/

namespace PhoneBridge.Storage

open Library MessageCenter

variable {db : Db} {t : Tables} {deviceId : Uuid} {f : DeviceRecord → DeviceRecord}

/-! ## Statements about children -/

theorem commit_foreignKey (hunique : t.Unique) (hforeign : ¬ t.ForeignKeys) :
    t.commit = .error .foreignKey := by
  rw [Tables.commit, dif_pos hunique, dif_neg hforeign]

theorem commit_unique (hunique : ¬ t.Unique) : t.commit = .error .unique := by
  rw [Tables.commit, dif_neg hunique]

theorem records_commit (h : t.Unique ∧ t.ForeignKeys) :
    t.commit.map (·.records) = .ok t.records := by
  obtain ⟨after, hafter⟩ := Tables.commit_succeeds.mpr h
  rw [hafter, ← Tables.commit_eq_ok.mp hafter]
  rfl

theorem get_records (t : Tables) (deviceId : Uuid) : t.records.devices.get deviceId =
    (lookupBy (·.deviceId) t.devices.rows deviceId).map (t.recordOf deviceId) := rfl

theorem contains_records : t.records.devices.contains deviceId = true ↔ deviceId ∈ t.deviceIds := by
  rw [KeyMap.contains_eq, get_records, Option.isSome_map, Option.isSome_iff_ne_none, Ne,
    lookupBy_eq_none, not_not]
  rfl

/-- A change of what belongs to one device. -/
structure Changes (db : Db) (t : Tables) (deviceId : Uuid) (f : DeviceRecord → DeviceRecord) :
    Prop where
  devices : t.devices = db.devices
  auditLog : t.auditLog = db.auditLog
  own : ∀ row, t.recordOf deviceId row = f (db.recordOf deviceId row)
  others : ∀ other, other ≠ deviceId → ∀ row, t.recordOf other row = db.recordOf other row

theorem Changes.records (h : Changes db t deviceId f) :
    t.records = db.records.change deviceId f := by
  have hdevices : t.records.devices = (db.records.change deviceId f).devices := by
    ext1 other
    rw [get_records, h.devices, Records.change]
    by_cases hother : other = deviceId
    · subst hother
      rw [KeyMap.get_set_self, get_records, Option.map_map]
      exact congrArg (Option.map · _) (funext h.own)
    · rw [KeyMap.get_set_of_ne _ _ hother, get_records]
      exact congrArg (Option.map · _) (funext (h.others other hother))
  refine Records.ext hdevices ?_
  rw [Tables.records, h.auditLog]
  rfl

/-- A child row is inserted when its device is known. -/
theorem Changes.give (h : Changes db t deviceId f)
    (hpairings : (t.pairings.rows.map (·.deviceId)).Nodup)
    (hreferences : ∀ id ∈ t.references, id ∈ db.references ∨ id = deviceId)
    (hnew : deviceId ∈ t.references) :
    t.commit.map (·.records) = db.records.give deviceId f := by
  have hids : t.deviceIds = db.deviceIds := congrArg (·.rows.map (·.deviceId)) h.devices
  by_cases hknown : deviceId ∈ db.deviceIds
  · obtain ⟨after, hafter, -⟩ := commit_of_known deviceId h.devices hpairings hreferences hknown
    rw [hafter, Records.give, if_pos (contains_records.mpr hknown), ← h.records,
      ← Tables.commit_eq_ok.mp hafter]
    rfl
  · have hunknown : ¬ t.ForeignKeys := fun hforeign ↦ hknown (hids ▸ hforeign deviceId hnew)
    rw [commit_foreignKey ⟨hids ▸ db.unique.devices, hpairings⟩ hunknown, Records.give,
      if_neg (mt contains_records.mp hknown)]
    rfl

/-- A change that keeps the references cannot fail. -/
theorem Changes.keep (h : Changes db t deviceId f) (hpairings : t.pairings = db.pairings)
    (hreferences : ∀ id ∈ t.references, id ∈ db.references) :
    t.commit.map (·.records) = .ok (db.records.change deviceId f) := by
  have hids : t.deviceIds = db.deviceIds := congrArg (·.rows.map (·.deviceId)) h.devices
  rw [records_commit (constraints_of_same hids (by rw [hpairings]) hreferences), h.records]

/-! ## One statement after the other -/

theorem refines_insertNotification (db : Db) (n : NotificationRow) :
    (db.insertNotification n).map (·.records) = db.records.give n.deviceId fun record ↦
      { record with notifications := record.notifications.insert n.id n } := by
  refine Changes.give {
    devices := rfl
    auditLog := rfl
    own := fun row ↦ ?_
    others := fun other hother row ↦ ?_ } db.unique.pairings
    (fun _ ↦ (mem_references_insertNotification db.toTables n).mp)
    ((mem_references_insertNotification db.toTables n).mpr (.inr rfl))
  · rw [Tables.recordOf, Tables.notificationsById, shelf_insertOrReplace, if_pos rfl]
    rfl
  · rw [Tables.recordOf, Tables.notificationsById, shelf_insertOrReplace, if_neg hother]
    rfl

theorem refines_insertSms (db : Db) (s : SmsRow) :
    (db.insertSms s).map (·.records) = db.records.give s.deviceId fun record ↦
      { record with smsMessages := record.smsMessages.insert s.id s } := by
  refine Changes.give {
    devices := rfl
    auditLog := rfl
    own := fun row ↦ ?_
    others := fun other hother row ↦ ?_ } db.unique.pairings
    (fun _ ↦ (mem_references_insertSms db.toTables s).mp)
    ((mem_references_insertSms db.toTables s).mpr (.inr rfl))
  · rw [Tables.recordOf, Tables.smsById, shelf_insertOrReplace, if_pos rfl]
    rfl
  · rw [Tables.recordOf, Tables.smsById, shelf_insertOrReplace, if_neg hother]
    rfl

theorem callsOf_insert (db : Db) (c : CallRow) (other : Uuid) :
    Tables.callsOf { db.toTables with
        calls := db.calls.insert (fun id ↦ { c with id }) fun _ ↦ rfl } other =
      if other = c.deviceId then db.callsOf other ++ [{ c with id := 0 }]
      else db.callsOf other := by
  rw [Tables.callsOf, NumberedTable.rows_insert, List.filter_append, List.map_append]
  split_ifs with hother
  · simp [Tables.callsOf, hother]
  · simp [Tables.callsOf, Ne.symm hother]

theorem refines_insertCall (db : Db) (c : CallRow) :
    (db.insertCall c).map (·.2.records) = db.records.give c.deviceId fun record ↦
      { record with calls := record.calls ++ [{ c with id := 0 }] } := by
  have hinsert : (db.insertCall c).map (·.2.records) = (Tables.commit { db.toTables with
      calls := db.calls.insert (fun id ↦ { c with id }) fun _ ↦ rfl }).map (·.records) := by
    rw [Db.insertCall]
    cases Tables.commit { db.toTables with
      calls := db.calls.insert (fun id ↦ { c with id }) fun _ ↦ rfl } <;> rfl
  rw [hinsert]
  refine Changes.give {
    devices := rfl
    auditLog := rfl
    own := fun row ↦ ?_
    others := fun other hother row ↦ ?_ } db.unique.pairings
    (fun _ ↦ (mem_references_insertCall db.toTables c).mp)
    ((mem_references_insertCall db.toTables c).mpr (.inr rfl))
  · rw [Tables.recordOf, callsOf_insert, if_pos rfl]
    rfl
  · rw [Tables.recordOf, callsOf_insert, if_neg hother]
    rfl

theorem refines_markNotificationRead (db : Db) (deviceId : Uuid) (notificationId : String) :
    (db.markNotificationRead deviceId notificationId).map (·.records) =
      .ok (db.records.change deviceId (Statement.markRead notificationId)) := by
  have hcond : ∀ row : NotificationRow, decide (row.deviceId = deviceId ∧ row.id = notificationId) ↔
      (row.id, row.deviceId) = (notificationId, deviceId) := fun row ↦ by
    rw [decide_eq_true_eq, Prod.mk.injEq, and_comm]
  have hshelf := shelf_update (fun row : NotificationRow ↦ (row.id, row.deviceId))
    db.notifications.rows (fun row ↦ { row with read := true }) (fun _ ↦ rfl) hcond
  refine Changes.keep {
    devices := rfl
    auditLog := rfl
    own := fun row ↦ ?_
    others := fun other hother row ↦ ?_ } rfl (fun id hid ↦ ?_)
  · rw [Tables.recordOf, Tables.notificationsById, KeyedTable.rows_update, hshelf, if_pos rfl]
    rfl
  · rw [Tables.recordOf, Tables.notificationsById, KeyedTable.rows_update, hshelf, if_neg hother]
    rfl
  · simp only [Tables.references, KeyedTable.rows_update, List.map_map, List.mem_append,
      List.mem_map] at hid ⊢
    grind

/-- What lies on a shelf of a device is what the table of the shelf says. -/
theorem get_shelf_records {ρ : Type} {key : ρ → String × Uuid} {rows : List ρ}
    {shelfOf : DeviceRecord → KeyMap String ρ} (howned : ∀ row ∈ rows, (key row).2 ∈ db.references)
    (hshelf : ∀ row, shelfOf (db.recordOf deviceId row) = shelf key rows deviceId) (id : String) :
    (db.records.devices.get deviceId).bind (fun record ↦ (shelfOf record).get id) =
      lookupBy key rows (id, deviceId) := by
  rw [get_records]
  cases hrow : lookupBy (·.deviceId) db.devices.rows deviceId with
  | some row =>
    rw [Option.map_some, Option.bind_some, hshelf]
    rfl
  | none =>
    refine (lookupBy_eq_none.mpr fun hkey ↦ lookupBy_eq_none.mp hrow ?_).symm
    obtain ⟨row, hmem, heq⟩ := List.mem_map.mp hkey
    have hreferences := howned row hmem
    rw [heq] at hreferences
    exact db.foreignKeys deviceId hreferences

theorem get_notification (db : Db) (deviceId : Uuid) (id : String) :
    (db.records.devices.get deviceId).bind (·.notifications.get id) =
      lookupBy (fun row ↦ (row.id, row.deviceId)) db.notifications.rows (id, deviceId) :=
  get_shelf_records (fun row hrow ↦ by simp [Tables.references, List.mem_map_of_mem hrow])
    (fun _ ↦ rfl) id

theorem get_message (db : Db) (deviceId : Uuid) (id : String) :
    (db.records.devices.get deviceId).bind (·.smsMessages.get id) =
      lookupBy (fun row ↦ (row.id, row.deviceId)) db.smsMessages.rows (id, deviceId) :=
  get_shelf_records (fun row hrow ↦ by simp [Tables.references, List.mem_map_of_mem hrow])
    (fun _ ↦ rfl) id

theorem refines_dismissNotification (db : Db) (deviceId : Uuid) (notificationId : String) :
    (db.dismissNotification deviceId notificationId).map
        (fun result ↦ (result.1, result.2.records)) =
      Statement.apply db.records (.dismissNotification deviceId notificationId) := by
  have hmarked := refines_markNotificationRead db deviceId notificationId
  obtain ⟨after, hafter⟩ :
      ∃ after, db.markNotificationRead deviceId notificationId = .ok after := by
    cases hcase : db.markNotificationRead deviceId notificationId with
    | error e =>
      rw [hcase] at hmarked
      cases hmarked
    | ok after => exact ⟨after, rfl⟩
  have hrow : (after.notifications.rows.find? fun row ↦
      row.deviceId = deviceId ∧ row.id = notificationId).map (·.id) =
        ((db.records.devices.get deviceId).bind
          (·.notifications.get notificationId)).map (·.id) := by
    have hfind : (fun row : NotificationRow ↦
        decide (row.deviceId = deviceId ∧ row.id = notificationId)) =
          fun row ↦ decide ((row.id, row.deviceId) = (notificationId, deviceId)) := by
      funext row
      simp only [Prod.mk.injEq, and_comm]
    have hlookup := lookupBy_update (fun row : NotificationRow ↦ (row.id, row.deviceId))
      db.notifications.rows (notificationId, deviceId)
      (fun row ↦ row.deviceId = deviceId ∧ row.id = notificationId)
      (fun row ↦ { row with read := true }) fun _ ↦ rfl
    rw [get_notification, hfind, Tables.commit_eq_ok.mp hafter]
    change (lookupBy _ _ _).map _ = _
    rw [KeyedTable.rows_update, hlookup, Option.map_map]
    refine congrArg (Option.map · _) (funext fun row ↦ ?_)
    by_cases hcond : row.deviceId = deviceId ∧ row.id = notificationId <;> simp [hcond]
  rw [hafter] at hmarked
  have hrecords : after.records = _ := Except.ok.inj hmarked
  rw [Db.dismissNotification, hafter, Statement.apply, ← hrow, ← hrecords]
  rfl

/-- The pairing row of a device is the one that is written. -/
theorem lookup_insertPairing {rows : List PairingRow} {new : PairingRow} (other : Uuid)
    (hrows : deviceId ∈ db.pairings.rows.map (·.deviceId) ∧
        rows = (db.pairings.rows.map fun row ↦ if row.deviceId = deviceId then
          { new with id := row.id, deviceId := row.deviceId } else row) ∨
      deviceId ∉ db.pairings.rows.map (·.deviceId) ∧ rows = db.pairings.rows ++ [new])
    (hnew : new.deviceId = deviceId) :
    (lookupBy (·.deviceId) rows other).map (fun row ↦
        Pairing.mk row.certPem row.certFingerprint row.pairedAt) =
      if other = deviceId then some (.mk new.certPem new.certFingerprint new.pairedAt)
      else db.pairingOf other := by
  rcases hrows with ⟨hknown, rfl⟩ | ⟨hunknown, rfl⟩
  · have hlookup := lookupBy_update (fun row : PairingRow ↦ row.deviceId) db.pairings.rows other
      (fun row ↦ row.deviceId = deviceId)
      (fun row ↦ { new with id := row.id, deviceId := row.deviceId }) fun _ ↦ rfl
    simp only [decide_eq_true_eq] at hlookup
    rw [hlookup, Tables.pairingOf]
    cases hrow : lookupBy (fun row : PairingRow ↦ row.deviceId) db.pairings.rows other with
    | none =>
      split_ifs with hother
      · exact absurd (hother ▸ hknown) (lookupBy_eq_none.mp hrow)
      · rfl
    | some row =>
      obtain rfl := (mem_of_lookupBy hrow).2
      split_ifs with hother <;> simp [hother]
  · rw [lookupBy_concat, hnew, Tables.pairingOf]
    by_cases hother : other = deviceId
    · subst hother
      rw [lookupBy_eq_none.mpr hunknown, if_pos rfl, if_pos rfl]
      rfl
    · rw [if_neg (Ne.symm hother), if_neg hother, Option.or_none]

theorem changes_pairings {pairings : NumberedTable PairingRow (·.id)} {new : PairingRow}
    (hrows : deviceId ∈ db.pairings.rows.map (·.deviceId) ∧
        pairings.rows = (db.pairings.rows.map fun row ↦ if row.deviceId = deviceId then
          { new with id := row.id, deviceId := row.deviceId } else row) ∨
      deviceId ∉ db.pairings.rows.map (·.deviceId) ∧ pairings.rows = db.pairings.rows ++ [new])
    (hnew : new.deviceId = deviceId) :
    Changes db { db.toTables with pairings } deviceId fun record ↦ { record with
      pairing := some (.mk new.certPem new.certFingerprint new.pairedAt) } where
  devices := rfl
  auditLog := rfl
  own row := by
    rw [Tables.recordOf, Tables.pairingOf, lookup_insertPairing deviceId hrows hnew, if_pos rfl]
    rfl
  others other hother row := by
    rw [Tables.recordOf, Tables.pairingOf, lookup_insertPairing other hrows hnew, if_neg hother]
    rfl

theorem refines_insertPairing (db : Db) (deviceId : Uuid) (certPem certFingerprint : String)
    (pairedAt : Int64) :
    (db.insertPairing deviceId certPem certFingerprint pairedAt).map (·.records) =
      db.records.give deviceId fun record ↦
        { record with pairing := some { certPem, certFingerprint, pairedAt } } := by
  let new : PairingRow := {
    id := db.pairings.last + 1
    deviceId
    certPem
    certFingerprint
    pairedAt }
  have hnew : new.deviceId = deviceId := rfl
  rw [Db.insertPairing]
  split_ifs with hknown
  · have hids : ((db.pairings.update (·.deviceId = deviceId) (fun old ↦ { old with
        certPem, certFingerprint, pairedAt }) fun _ ↦ rfl).skip.rows.map (·.deviceId)) =
          db.pairings.rows.map (·.deviceId) := by
      rw [NumberedTable.rows_skip, NumberedTable.rows_update, List.map_map]
      refine List.map_congr_left fun row _ ↦ ?_
      by_cases hrow : row.deviceId = deviceId <;> simp [hrow]
    refine (changes_pairings (.inl ⟨hknown, ?_⟩) hnew).give ?_ (fun id hid ↦ .inl ?_) ?_
    · simp [new]
    · rw [hids]
      exact db.unique.pairings
    · rw [Tables.references, hids] at hid
      exact hid
    · rw [Tables.references, hids]
      simp only [List.mem_append]
      exact .inl (.inl (.inl (.inl hknown)))
  · refine (changes_pairings (.inr ⟨hknown, rfl⟩) hnew).give ?_ (fun id hid ↦ ?_) ?_
    · rw [NumberedTable.rows_insert, List.map_append, List.nodup_append]
      refine ⟨db.unique.pairings, by simp, fun id hid other hother ↦ ?_⟩
      obtain rfl : other = deviceId := by simpa using hother
      rintro rfl
      exact hknown hid
    · simp only [Tables.references, NumberedTable.rows_insert, List.map_append,
        List.mem_append, List.mem_map, List.mem_singleton] at hid ⊢
      grind
    · simp [Tables.references]

/-! ## Statements about devices -/

/-- The devices' own data change under their ids. -/
theorem refines_updateDevices {devices : NumberedTable DeviceRow (·.id)} (deviceId : Uuid)
    (set : DeviceRow → DeviceRow) (g : Device → Device)
    (hrows : devices.rows = db.devices.rows.map fun row ↦
      if row.deviceId = deviceId then set row else row)
    (hid : ∀ row, (set row).deviceId = row.deviceId)
    (hset : ∀ row, (set row).device = g row.device) :
    (Tables.commit { db.toTables with devices }).map (·.records) =
      .ok (db.records.change deviceId fun record ↦ { record with device := g record.device }) := by
  have hids : devices.rows.map (·.deviceId) = db.deviceIds := by
    rw [hrows, List.map_map]
    refine List.map_congr_left fun row _ ↦ ?_
    by_cases hrow : row.deviceId = deviceId <;> simp [hrow, hid]
  rw [records_commit (@constraints_of_same db { db.toTables with devices } hids rfl fun _ h ↦ h)]
  have hlookup := fun other ↦ lookupBy_update (fun row : DeviceRow ↦ row.deviceId) db.devices.rows
    other (fun row ↦ row.deviceId = deviceId) set hid
  simp only [decide_eq_true_eq] at hlookup
  refine congrArg Except.ok (Records.ext ?_ rfl)
  ext1 other
  rw [get_records, hrows, hlookup, Records.change, KeyMap.get_set, Option.map_map]
  cases hrow : lookupBy (fun row : DeviceRow ↦ row.deviceId) db.devices.rows other with
  | none =>
    split_ifs with hother
    · rw [← hother, get_records, hrow]
      rfl
    · rw [get_records, hrow]
      rfl
  | some row =>
    obtain rfl := (mem_of_lookupBy hrow).2
    split_ifs with hother
    · rw [← hother, get_records, hrow]
      simp only [Option.map_some, Function.comp_apply, hother, if_true, Tables.recordOf, hset]
      rfl
    · rw [get_records, hrow]
      simp only [Option.map_some, Function.comp_apply, hother, if_false]
      rfl

theorem refines_removeDevice (db : Db) (deviceId : Uuid) :
    (db.removeDevice deviceId).map (·.records) =
      .ok { db.records with devices := db.records.devices.remove deviceId } := by
  rw [Db.removeDevice, records_commit (constraints_deleteDevice db deviceId)]
  have hothers : ∀ other, other ≠ deviceId →
      (db.deleteDevice deviceId).recordOf other = db.recordOf other := by
    intro other hother
    funext row
    have hpairings : (db.deleteDevice deviceId).pairingOf other = db.pairingOf other := by
      rw [Tables.pairingOf, Tables.deleteDevice, NumberedTable.rows_delete,
        lookupBy_filter (fun id ↦ !decide (id = deviceId)) fun _ ↦ rfl,
        if_pos (by simpa using hother)]
      rfl
    have hnotifications : (db.deleteDevice deviceId).notificationsById other =
        db.notificationsById other := by
      rw [Tables.notificationsById, Tables.deleteDevice, KeyedTable.rows_delete,
        shelf_delete (fun id ↦ !decide (id = deviceId)) fun _ ↦ rfl,
        if_pos (by simpa using hother)]
      rfl
    have hsms : (db.deleteDevice deviceId).smsById other = db.smsById other := by
      rw [Tables.smsById, Tables.deleteDevice, KeyedTable.rows_delete,
        shelf_delete (fun id ↦ !decide (id = deviceId)) fun _ ↦ rfl,
        if_pos (by simpa using hother)]
      rfl
    have hcalls : (db.deleteDevice deviceId).callsOf other = db.callsOf other := by
      rw [Tables.callsOf, Tables.deleteDevice, NumberedTable.rows_delete,
        filter_delete_of_not fun row _ hrow ↦ ?_]
      · rfl
      · simpa [of_decide_eq_true hrow] using Ne.symm hother
    rw [Tables.recordOf, hpairings, hnotifications, hsms, hcalls]
    rfl
  refine congrArg Except.ok (Records.ext ?_ rfl)
  ext1 other
  have hlookup : lookupBy (·.deviceId)
      (db.devices.rows.filter fun row ↦ !decide (row.deviceId = deviceId)) other = _ :=
    lookupBy_filter (fun id ↦ !decide (id = deviceId)) fun _ ↦ rfl
  rw [get_records, KeyMap.get_remove]
  change (lookupBy _ (db.deleteDevice deviceId).devices.rows other).map _ = _
  rw [Tables.deleteDevice, NumberedTable.rows_delete, hlookup]
  by_cases hother : other = deviceId
  · simp [hother]
  · rw [if_pos (by simpa using hother), if_neg hother, get_records, ← hothers other hother]
    rfl

theorem refines_insertAuditLog (db : Db) (timestamp : Int64) (logged : Option Uuid)
    (event : String) (detail : Option String) :
    (db.insertAuditLog timestamp logged event detail).map (·.records) =
      .ok { db.records with auditLog := db.records.auditLog ++
        [{ id := 0, timestamp, deviceId := logged, event, detail }] } := by
  have hconstraints : Tables.Unique { db.toTables with
      auditLog := db.auditLog.insert
        (fun id ↦ { id, timestamp, deviceId := logged, event, detail }) fun _ ↦ rfl } ∧
      Tables.ForeignKeys { db.toTables with
        auditLog := db.auditLog.insert
          (fun id ↦ { id, timestamp, deviceId := logged, event, detail }) fun _ ↦ rfl } :=
    constraints_of_same (Eq.refl db.deviceIds) rfl fun _ h ↦ h
  refine (records_commit hconstraints).trans ?_
  refine congrArg Except.ok (Records.ext rfl ?_)
  simp [Tables.records]

/-! ## The upsert -/

section Upsert

variable {d new row : DeviceRow} {old : Option DeviceRow}

theorem lookup_replaced (h : Replaced db t old new) (hunique : t.Unique) (other : Uuid) :
    lookupBy (·.deviceId) t.devices.rows other =
      if other = new.deviceId then some new
      else if old.map (·.deviceId) = some other then none
      else lookupBy (·.deviceId) db.devices.rows other := by
  have hnew : new ∈ t.devices.rows := (h.mem new).mpr (.inl rfl)
  split_ifs with hother hgone
  · exact (lookupBy_eq_some hunique.devices).mpr ⟨hnew, hother.symm⟩
  · refine lookupBy_eq_none.mpr fun hid ↦ ?_
    obtain ⟨row, hrow, rfl⟩ := List.mem_map.mp hid
    obtain ⟨gone, rfl, hsame⟩ := Option.map_eq_some_iff.mp hgone
    rcases (h.mem row).mp hrow with rfl | ⟨hrow, hkept⟩
    · exact hother rfl
    · exact hkept (congrArg some (db.eq_of_deviceId_eq hrow (h.stored gone rfl) hsame.symm))
  · refine Option.ext fun row ↦ ?_
    rw [lookupBy_eq_some hunique.devices, lookupBy_eq_some db.unique.devices, h.mem]
    constructor
    · rintro ⟨rfl | ⟨hrow, -⟩, hid⟩
      · exact absurd hid.symm hother
      · exact ⟨hrow, hid⟩
    · rintro ⟨hrow, hid⟩
      refine ⟨.inr ⟨hrow, ?_⟩, hid⟩
      rintro rfl
      exact hgone (congrArg some hid)

/-- Device ids stay unique when the id that comes in is free. -/
theorem unique_replaced (h : Replaced db t old new)
    (hids : ∀ other ∈ db.devices.rows, some other ≠ old → other.deviceId ≠ new.deviceId) :
    t.Unique := by
  refine ⟨List.Nodup.map_on (fun row hrow other hother heq ↦ ?_) t.devices.nodup_rows, ?_⟩
  · rcases (h.mem row).mp hrow with rfl | ⟨hrow, hkept⟩ <;>
      rcases (h.mem other).mp hother with rfl | ⟨hother, hkept'⟩
    · rfl
    · exact absurd heq.symm (hids other hother hkept')
    · exact absurd heq (hids row hrow hkept)
    · exact db.eq_of_deviceId_eq hrow hother heq
  · rw [h.rest]
    exact db.unique.pairings

/-- The records after one device row has come in. -/
theorem get_replaced (h : Replaced db t old new) (hunique : t.Unique) (other : Uuid) :
    t.records.devices.get other =
      if other = new.deviceId then some (db.recordOf other new)
      else if old.map (·.deviceId) = some other then none
      else db.records.devices.get other := by
  have hrecord : t.recordOf other = db.recordOf other := by
    rw [h.rest]
    rfl
  rw [get_records, lookup_replaced h hunique, hrecord]
  split_ifs <;> rfl

theorem auditLog_replaced (h : Replaced db t old new) :
    t.records.auditLog = db.records.auditLog := by
  rw [h.rest]
  rfl

/-- A device that nothing refers to has a bare record. -/
theorem isBare_recordOf (hsessions : db.sessions.rows = []) :
    (db.recordOf deviceId row).IsBare ↔ deviceId ∉ db.references := by
  have hpairing : db.pairingOf deviceId = none ↔ deviceId ∉ db.pairings.rows.map (·.deviceId) := by
    rw [Tables.pairingOf, Option.map_eq_none_iff, lookupBy_eq_none]
  have hnotifications : db.notificationsById deviceId = .empty ↔
      deviceId ∉ db.notifications.rows.map (·.deviceId) := shelf_eq_empty
  have hsms : db.smsById deviceId = .empty ↔ deviceId ∉ db.smsMessages.rows.map (·.deviceId) :=
    shelf_eq_empty
  have hcalls : db.callsOf deviceId = [] ↔ deviceId ∉ db.calls.rows.map (·.deviceId) := by
    rw [Tables.callsOf, List.map_eq_nil_iff, List.filter_eq_nil_iff]
    simp
  rw [DeviceRecord.IsBare, Tables.recordOf, DeviceRecord.mk.injEq, hpairing, hnotifications, hsms,
    hcalls, Tables.references, hsessions]
  simp only [true_and, List.map_nil, List.append_nil, List.mem_append, not_or, and_assoc]

/-- The same phone is found in the records and in the table. -/
theorem samePhone_records (hregular : db.Regular) (d : DeviceRow) :
    db.records.samePhone d.device = (db.findHardware d).map (·.deviceId) := by
  have hget : ∀ {deviceId : Uuid} {record : DeviceRecord},
      db.records.devices.get deviceId = some record ↔
        ∃ row ∈ db.devices.rows, row.deviceId = deviceId ∧ db.recordOf deviceId row = record := by
    intro deviceId record
    rw [get_records, Option.map_eq_some_iff]
    simp only [lookupBy_eq_some db.unique.devices, and_assoc]
  have hexists : (∃ deviceId record, db.records.devices.get deviceId = some record ∧
      d.device.hardwareId ≠ none ∧ d.device.hardwareId = record.device.hardwareId) →
        ∃ row ∈ db.devices.rows, SameHardware d row := by
    rintro ⟨deviceId, record, hrecord, hsome, hsame⟩
    obtain ⟨row, hrow, -, rfl⟩ := hget.mp hrecord
    exact ⟨row, hrow, hsome, hsame⟩
  rw [Records.samePhone]
  cases hfound : db.findHardware d with
  | none =>
    refine dif_neg fun h ↦ ?_
    obtain ⟨row, hrow, hphone⟩ := hexists h
    exact findHardware_eq_none hfound row hrow hphone
  | some row =>
    obtain ⟨hrow, hsome, hphone⟩ := findHardware_eq_some hfound
    have h : ∃ deviceId record, db.records.devices.get deviceId = some record ∧
        d.device.hardwareId ≠ none ∧ d.device.hardwareId = record.device.hardwareId :=
      ⟨row.deviceId, _, hget.mpr ⟨row, hrow, rfl, rfl⟩, hsome, hphone⟩
    rw [dif_pos h]
    obtain ⟨record, hrecord, -, hsame⟩ := h.choose_spec
    obtain ⟨other, hother, hid, rfl⟩ := hget.mp hrecord
    have hrowPhone : SameHardware row other := ⟨fun hnone ↦ hsome (hphone.trans hnone),
      hphone.symm.trans hsame⟩
    rw [← hid, ← hregular.samePhone row hrow other hother hrowPhone]
    rfl

/-- A refreshed row keeps its device id, or comes with one that is free while nothing refers to the
old one. -/
theorem refines_refreshDevice (hregular : db.Regular) (hrow : row ∈ db.devices.rows) :
    (db.refreshDevice row.id d).commit.map (·.records) =
      if row.deviceId = d.deviceId then
        .ok (db.records.change d.deviceId ({ · with device := d.device }))
      else if db.records.devices.contains d.deviceId then .error .unique
      else if row.deviceId ∈ db.references then .error .foreignKey
      else .ok { db.records with
        devices := (db.records.devices.remove row.deviceId).insert d.deviceId
          { device := d.device } } := by
  have hreplaced := replaced_refreshDevice (r := d) hrow
  have hgetOld : db.records.devices.get row.deviceId = some (db.recordOf row.deviceId row) := by
    rw [get_records, (lookupBy_eq_some db.unique.devices).mpr ⟨hrow, rfl⟩]
    rfl
  have hids : ¬ db.records.devices.contains d.deviceId = true → ∀ other ∈ db.devices.rows,
      some other ≠ some row → other.deviceId ≠ d.deviceId := fun hfree other hother _ heq ↦
    hfree (contains_records.mpr (Tables.mem_deviceIds.mpr ⟨other, hother, heq⟩))
  split_ifs with hown htaken hused
  · have hconstraints := hreplaced.constraints
      (fun other hother hne heq ↦ hne (congrArg some
        (db.eq_of_deviceId_eq hother hrow (heq.trans hown.symm)))) (by simpa using .inl hown)
    rw [records_commit hconstraints]
    refine congrArg Except.ok (Records.ext ?_ (auditLog_replaced hreplaced))
    ext1 other
    rw [get_replaced hreplaced hconstraints.1, Records.change, KeyMap.get_set]
    split_ifs with hother hgone
    · subst hother
      rw [← hown, hgetOld]
      rfl
    · exact absurd ((Option.some.inj hgone).symm.trans hown) hother
    · rfl
  · refine congrArg (Except.map _) (commit_unique fun hunique ↦ ?_)
    obtain ⟨other, hother, hid⟩ := Tables.mem_deviceIds.mp (contains_records.mp htaken)
    have hne : other ≠ row := by
      rintro rfl
      exact hown hid
    have hsame := List.inj_on_of_nodup_map hunique.devices
      ((hreplaced.mem other).mpr (.inr ⟨hother, fun h ↦ hne (Option.some.inj h)⟩))
      ((hreplaced.mem _).mpr (.inl rfl)) hid
    exact hne (db.devices.eq_of_number_eq hother hrow (by rw [hsame]))
  · exact congrArg (Except.map _) (commit_foreignKey (unique_replaced hreplaced (hids htaken))
      (not_foreignKeys_refresh hrow hown hused))
  · have hconstraints := hreplaced.constraints (hids htaken) (by simpa using .inr hused)
    rw [records_commit hconstraints]
    refine congrArg Except.ok (Records.ext ?_ (auditLog_replaced hreplaced))
    have hbare : db.recordOf d.deviceId { d with id := row.id } = { device := d.device } :=
      (isBare_recordOf hregular.sessions).mpr fun href ↦
        htaken (contains_records.mpr (db.foreignKeys _ href))
    ext1 other
    rw [get_replaced hreplaced hconstraints.1, KeyMap.get_insert]
    by_cases hother : other = d.deviceId
    · subst hother
      rw [if_pos rfl, if_pos rfl, hbare]
    · rw [if_neg hother, if_neg hother, KeyMap.get_remove, Option.map_some]
      simp only [Option.some.injEq, eq_comm]

/-- A device that comes without a known phone. -/
theorem refines_insertOrUpdateDevice (hregular : db.Regular) (d : DeviceRow) :
    (db.insertOrUpdateDevice d).commit.map (·.records) =
      if db.records.devices.contains d.deviceId then
        .ok (db.records.change d.deviceId fun record ↦
          { record with device := d.device.mergedWith record.device })
      else .ok { db.records with
        devices := db.records.devices.insert d.deviceId { device := d.device } } := by
  split_ifs with hknown
  · rw [Tables.insertOrUpdateDevice, if_pos (contains_records.mp hknown)]
    exact refines_updateDevices d.deviceId (fun old ↦ { old with
      name := d.name
      publicKey := d.publicKey
      lastSeen := d.lastSeen
      hardwareId := d.hardwareId.or old.hardwareId }) d.device.mergedWith
      (by simp) (fun _ ↦ rfl) fun _ ↦ rfl
  · have hnew : d.deviceId ∉ db.deviceIds := mt contains_records.mpr hknown
    have hreplaced := replaced_insertOrUpdate_new hnew
    have hconstraints := hreplaced.constraints
      (fun other hother _ heq ↦ hnew (Tables.mem_deviceIds.mpr ⟨other, hother, heq⟩)) (by simp)
    rw [records_commit hconstraints]
    refine congrArg Except.ok (Records.ext ?_ (auditLog_replaced hreplaced))
    have hbare : db.recordOf d.deviceId { d with id := db.devices.last + 1 } =
        { device := d.device } :=
      (isBare_recordOf hregular.sessions).mpr fun href ↦ hnew (db.foreignKeys _ href)
    ext1 other
    rw [get_replaced hreplaced hconstraints.1, KeyMap.get_insert]
    by_cases hother : other = d.deviceId
    · subst hother
      rw [if_pos rfl, if_pos rfl, hbare]
    · rw [if_neg hother, if_neg hother]
      rfl

theorem refines_upsertDevice (hregular : db.Regular) (d : DeviceRow) :
    (db.upsertDevice d).map (·.records) = db.records.upsertDevice d.deviceId d.device := by
  have hphone := samePhone_records hregular d
  rw [Db.upsertDevice, Records.upsertDevice]
  cases hfound : db.findHardware d with
  | none =>
    rw [hfound] at hphone
    rw [hphone]
    exact refines_insertOrUpdateDevice hregular d
  | some row =>
    rw [hfound] at hphone
    obtain ⟨hrow, -⟩ := findHardware_eq_some hfound
    have hbare : (∃ record, db.records.devices.get row.deviceId = some record ∧ ¬ record.IsBare) ↔
        row.deviceId ∈ db.references := by
      rw [get_records, (lookupBy_eq_some db.unique.devices).mpr ⟨hrow, rfl⟩]
      simp only [Option.map_some, Option.some.injEq, exists_eq_left', isBare_recordOf
        hregular.sessions, not_not]
    rw [hphone]
    refine (refines_refreshDevice hregular hrow).trans ?_
    simp only [Option.map_some, hbare]

end Upsert

/-! ## Every statement, and every sequence of statements -/

theorem map_answer {α : Type} (result : Except DbError Db) (answer : α) :
    ((answer, ·) <$> result).map (fun result ↦ (result.1, result.2.records)) =
      (answer, ·) <$> result.map (·.records) := by
  cases result <;> rfl

/-- A statement on the tables is the statement on their records. -/
theorem refines_run (hregular : db.Regular) (s : Statement) :
    (s.run db).map (fun result ↦ (result.1, result.2.records)) = s.apply db.records := by
  cases s with
  | upsertDevice d =>
    rw [Statement.run, map_answer, refines_upsertDevice hregular]
    rfl
  | removeDevice deviceId =>
    rw [Statement.run, map_answer, refines_removeDevice]
    rfl
  | touchDevice deviceId lastSeen =>
    rw [Statement.run, map_answer, Db.touchDevice, refines_updateDevices deviceId
      (fun old ↦ { old with lastSeen }) (fun old ↦ { old with lastSeen })
      (by simp) (fun _ ↦ rfl) fun _ ↦ rfl]
    rfl
  | insertPairing deviceId certPem certFingerprint pairedAt =>
    rw [Statement.run, map_answer, refines_insertPairing]
    rfl
  | markDevicePaired deviceId =>
    rw [Statement.run, map_answer, Db.markDevicePaired, refines_updateDevices deviceId
      (fun old ↦ { old with paired := true }) (fun old ↦ { old with paired := true })
      (by simp) (fun _ ↦ rfl) fun _ ↦ rfl]
    rfl
  | insertNotification n =>
    rw [Statement.run, map_answer, refines_insertNotification]
    rfl
  | markNotificationRead deviceId notificationId =>
    rw [Statement.run, map_answer, refines_markNotificationRead]
    rfl
  | dismissNotification deviceId notificationId =>
    exact refines_dismissNotification db deviceId notificationId
  | insertSms s =>
    rw [Statement.run, map_answer, refines_insertSms]
    rfl
  | insertCall c =>
    have hcall := refines_insertCall db c
    rw [Statement.run, Statement.apply, ← hcall]
    cases db.insertCall c <;> rfl
  | insertAuditLog timestamp deviceId event detail =>
    rw [Statement.run, map_answer, refines_insertAuditLog]
    rfl

/-- A statement succeeds on the records as it does on the tables, and fails as it does there. -/
theorem apply_of_run {s : Statement} {answer : Option String} {after : Db} (hregular : db.Regular)
    (hrun : s.run db = .ok (answer, after)) : s.apply db.records = .ok (answer, after.records) := by
  rw [← refines_run hregular s, hrun]
  rfl

theorem apply_of_error {s : Statement} {e : DbError} (hregular : db.Regular)
    (hrun : s.run db = .error e) : s.apply db.records = .error e := by
  rw [← refines_run hregular s, hrun]
  rfl

theorem toTables_of_run {t : Tables} {answer : Option String} {after : Db}
    (h : (none, ·) <$> t.commit = Except.ok (answer, after)) : after.toTables = t := by
  cases hcommit : t.commit with
  | error e =>
    rw [hcommit] at h
    cases h
  | ok committed =>
    rw [hcommit] at h
    cases h
    exact Tables.commit_eq_ok.mp hcommit

theorem regular_of_devices {after : Db} (h : db.Regular)
    (hafter : after.toTables = t) (hdevices : t.devices = db.devices)
    (hsessions : t.sessions = db.sessions) : after.Regular where
  sessions := by
    rw [hafter, hsessions]
    exact h.sessions
  samePhone := by
    rw [hafter, hdevices]
    exact h.samePhone

/-- A change that keeps device ids and hardware ids. -/
theorem regular_updateDevices {after : Db} {devices : NumberedTable DeviceRow (·.id)}
    {set : DeviceRow → DeviceRow} (h : db.Regular)
    (hafter : after.toTables = { db.toTables with devices })
    (hrows : devices.rows = db.devices.rows.map set)
    (hset : ∀ row, (set row).hardwareId = row.hardwareId) : after.Regular where
  sessions := by
    rw [hafter]
    exact h.sessions
  samePhone := by
    rw [hafter]
    change ∀ row ∈ devices.rows, ∀ other ∈ devices.rows, SameHardware row other → row = other
    rw [hrows, List.forall_mem_map]
    intro row hrow
    rw [List.forall_mem_map]
    rintro other hother ⟨hsome, hsame⟩
    rw [hset] at hsome
    rw [hset, hset] at hsame
    rw [h.samePhone row hrow other hother ⟨hsome, hsame⟩]

theorem sessions_upsertDevice {after : Db} {d : DeviceRow} (h : db.upsertDevice d = .ok after) :
    after.sessions = db.sessions := by
  rw [Db.upsertDevice] at h
  split at h
  · rw [Tables.commit_eq_ok.mp h]
    rfl
  · rw [Tables.commit_eq_ok.mp h, Tables.insertOrUpdateDevice]
    split_ifs <;> rfl

theorem regular_upsertDevice {after : Db} {d : DeviceRow} (h : db.Regular)
    (hafter : db.upsertDevice d = .ok after) : after.Regular := by
  refine {
    sessions := (congrArg _ (sessions_upsertDevice hafter)).trans h.sessions
    samePhone := ?_ }
  have hdb : DevicePool.OneRowPerDevice db := (DevicePool.oneRowPerDevice_iff db).mpr h.samePhone
  rw [← DevicePool.oneRowPerDevice_iff]
  rw [Db.upsertDevice] at hafter
  cases hfound : db.findHardware d with
  | none =>
    rw [hfound] at hafter
    obtain ⟨inserted, old, new, hcommit, hinserted⟩ := insertOrUpdateDevice_succeeds db d
    obtain rfl := Except.ok.inj (hafter.symm.trans hcommit)
    exact DevicePool.oneRow_insert hinserted hdb fun row hrow hphone ↦
      absurd hphone (findHardware_eq_none hfound row hrow)
  | some row =>
    rw [hfound] at hafter
    obtain ⟨hrow, hsome, hphone⟩ := findHardware_eq_some hfound
    have hrefreshed := @DevicePool.oneRow_update db row.id d hdb
      fun _ other hother hsame ↦ congrArg DeviceRow.id (h.samePhone other hother row hrow
        ⟨fun hnone ↦ hsome (hsame.2.trans hnone), hsame.2.symm.trans hphone⟩)
    change (db.refreshDevice row.id d).commit = _ at hafter
    rwa [hafter] at hrefreshed

/-- A statement keeps the tables regular. -/
theorem regular_run {s : Statement} {answer : Option String} {after : Db} (h : db.Regular)
    (hrun : s.run db = .ok (answer, after)) : after.Regular := by
  cases s with
  | upsertDevice d =>
    obtain ⟨upserted, hupserted, heq⟩ := (map_eq_ok ..).mp hrun
    cases heq
    exact regular_upsertDevice h hupserted
  | removeDevice deviceId =>
    have hafter := toTables_of_run hrun
    refine { sessions := ?_, samePhone := ?_ }
    · rw [hafter, Tables.deleteDevice, NumberedTable.rows_delete, h.sessions, List.filter_nil]
    · rw [hafter]
      exact fun row hrow other hother ↦
        h.samePhone row (List.mem_filter.mp hrow).1 other (List.mem_filter.mp hother).1
  | touchDevice deviceId lastSeen =>
    refine regular_updateDevices h (toTables_of_run hrun) rfl fun row ↦ ?_
    split_ifs <;> rfl
  | insertPairing deviceId certPem certFingerprint pairedAt =>
    simp only [Statement.run, Db.insertPairing] at hrun
    split at hrun <;> exact regular_of_devices h (toTables_of_run hrun) rfl rfl
  | markDevicePaired deviceId =>
    refine regular_updateDevices h (toTables_of_run hrun) rfl fun row ↦ ?_
    split_ifs <;> rfl
  | insertNotification n => exact regular_of_devices h (toTables_of_run hrun) rfl rfl
  | markNotificationRead deviceId notificationId =>
    exact regular_of_devices h (toTables_of_run hrun) rfl rfl
  | dismissNotification deviceId notificationId =>
    obtain ⟨marked, hmarked, heq⟩ := bind_eq_ok.mp hrun
    cases heq
    exact regular_of_devices h (Tables.commit_eq_ok.mp hmarked) rfl rfl
  | insertSms s => exact regular_of_devices h (toTables_of_run hrun) rfl rfl
  | insertCall c =>
    obtain ⟨result, hresult, heq⟩ := map_eq_ok.mp hrun
    obtain ⟨inserted, hinserted, hpair⟩ := bind_eq_ok.mp hresult
    cases hpair
    cases heq
    exact regular_of_devices h (Tables.commit_eq_ok.mp hinserted) rfl rfl
  | insertAuditLog timestamp logged event detail =>
    exact regular_of_devices h (toTables_of_run hrun) rfl rfl

theorem refines_statements : Service.Refines (fun db (s : Statement) ↦ s.run db)
    (fun r (s : Statement) ↦ s.apply r) (fun db : Db ↦ db.records) (fun db ↦ db.Regular) where
  keeps _ _ _ _ := regular_run
  agrees _ s hregular := refines_run hregular s

theorem regular_empty : Db.empty.Regular where
  sessions := rfl
  samePhone _ h := absurd h List.not_mem_nil

/-- On a new database, every sequence of statements is answered as the same sequence on records is
answered, statement by statement and failure by failure, and leaves the same records. -/
theorem database_keeps_device_records (statements : List Statement) :
    Service.perform (fun r (s : Statement) ↦ s.apply r) Records.empty statements =
      ((Service.perform (fun db (s : Statement) ↦ s.run db) Db.empty statements).1,
        (Service.perform (fun db (s : Statement) ↦ s.run db) Db.empty statements).2.records) :=
  refines_statements.perform regular_empty statements

end PhoneBridge.Storage
