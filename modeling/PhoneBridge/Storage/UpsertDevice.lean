import PhoneBridge.Library.Result
import PhoneBridge.Storage.Pool

/-!
# What upserting a device does

`upsert_device` is meant to keep one row for each device and for each physical phone, with the
phone's history. It does so exactly when the incoming row does not collide with what is stored.
-/

namespace PhoneBridge.Storage

open Library

/-! ## Later inserts -/

/-- An insert into a child table. -/
inductive ChildInsert
  | notification (row : NotificationRow)
  | sms (row : SmsRow)
  | call (row : CallRow)
  | pairing (deviceId : Uuid) (certPem certFingerprint : String) (pairedAt : Int64)

def ChildInsert.deviceId : ChildInsert → Uuid
  | .notification row => row.deviceId
  | .sms row => row.deviceId
  | .call row => row.deviceId
  | .pairing deviceId _ _ _ => deviceId

def ChildInsert.perform (db : Db) : ChildInsert → Except DbError Db
  | .notification row => db.insertNotification row
  | .sms row => db.insertSms row
  | .call row => do
    let (_, after) ← db.insertCall row
    return after
  | .pairing deviceId certPem certFingerprint pairedAt =>
    db.insertPairing deviceId certPem certFingerprint pairedAt

section References

variable (t : Tables) {id : Uuid}

/-! The device of a child row is the one reference that the row adds. -/

theorem mem_references_insertNotification (n : NotificationRow) :
    id ∈ Tables.references { t with notifications := t.notifications.insertOrReplace n } ↔
      id ∈ t.references ∨ id = n.deviceId := by
  have hcolumn := t.notifications.mem_map_insertOrReplace (b := id)
    fun (old : NotificationRow) (h : _ = (n.id, n.deviceId)) ↦ congrArg Prod.snd h
  simp only [Tables.references, List.mem_append, hcolumn]
  tauto

theorem mem_references_insertSms (s : SmsRow) :
    id ∈ Tables.references { t with smsMessages := t.smsMessages.insertOrReplace s } ↔
      id ∈ t.references ∨ id = s.deviceId := by
  have hcolumn := t.smsMessages.mem_map_insertOrReplace (b := id)
    fun (old : SmsRow) (h : _ = (s.id, s.deviceId)) ↦ congrArg Prod.snd h
  simp only [Tables.references, List.mem_append, hcolumn]
  tauto

theorem mem_references_insertCall (c : CallRow) :
    id ∈ Tables.references { t with
        calls := t.calls.insert (fun number ↦ { c with id := number }) fun _ ↦ rfl } ↔
      id ∈ t.references ∨ id = c.deviceId := by
  simp only [Tables.references, NumberedTable.rows_insert, List.map_append, List.mem_append,
    List.map_cons, List.map_nil, List.mem_singleton]
  tauto

end References

/-- Tables with one more reference meet the constraints when the device is known. -/
theorem commit_of_known {db : Db} {t : Tables} (deviceId : Uuid) (hdevices : t.devices = db.devices)
    (hpairings : (t.pairings.rows.map (·.deviceId)).Nodup)
    (hreferences : ∀ id ∈ t.references, id ∈ db.references ∨ id = deviceId)
    (hknown : deviceId ∈ db.deviceIds) :
    ∃ after, t.commit = .ok after ∧ after.deviceIds = db.deviceIds := by
  have hids : t.deviceIds = db.deviceIds := by rw [Tables.deviceIds, hdevices]; rfl
  have hforeign : t.ForeignKeys := by
    intro id hid
    rw [hids]
    rcases hreferences id hid with h | rfl
    · exact db.foreignKeys id h
    · exact hknown
  obtain ⟨after, hafter⟩ :=
    Tables.commit_succeeds.mpr ⟨⟨hids ▸ db.unique.devices, hpairings⟩, hforeign⟩
  exact ⟨after, hafter, by rw [Tables.commit_eq_ok.mp hafter, hids]⟩

/-- A child row of a known device can be inserted, and the device stays known. -/
theorem perform_of_known {db : Db} (child : ChildInsert) (h : child.deviceId ∈ db.deviceIds) :
    ∃ after, child.perform db = .ok after ∧ after.deviceIds = db.deviceIds := by
  cases child with
  | notification row =>
    exact commit_of_known _ rfl db.unique.pairings
      (fun _ ↦ (mem_references_insertNotification db.toTables row).mp) h
  | sms row =>
    exact commit_of_known _ rfl db.unique.pairings
      (fun _ ↦ (mem_references_insertSms db.toTables row).mp) h
  | call row =>
    obtain ⟨after, hafter, hids⟩ : ∃ after, Tables.commit { db.toTables with
        calls := db.calls.insert (fun id ↦ { row with id }) fun _ ↦ rfl } = .ok after ∧
          after.deviceIds = db.deviceIds :=
      commit_of_known row.deviceId rfl db.unique.pairings
        (fun _ ↦ (mem_references_insertCall db.toTables row).mp) h
    refine ⟨after, ?_, hids⟩
    simp [ChildInsert.perform, Db.insertCall, hafter, bind, Except.bind, pure, Except.pure]
  | pairing deviceId certPem certFingerprint pairedAt =>
    simp only [ChildInsert.perform, Db.insertPairing]
    split
    · have hsame : (db.pairings.rows.map fun row ↦ if row.deviceId = deviceId then { row with
          certPem, certFingerprint, pairedAt } else row).map (·.deviceId) =
          db.pairings.rows.map (·.deviceId) := by
        rw [List.map_map]
        refine List.map_congr_left fun row _ ↦ ?_
        by_cases hrow : row.deviceId = deviceId <;> simp [hrow]
      refine commit_of_known _ rfl ?_ (fun id hid ↦ .inl ?_) h
      · simpa [hsame] using db.unique.pairings
      · simpa [Tables.references, hsame] using hid
    · next hnew =>
      refine commit_of_known _ rfl ?_ (fun id hid ↦ ?_) h
      · rw [NumberedTable.rows_insert, List.map_append, List.nodup_append]
        refine ⟨db.unique.pairings, by simp, fun id hid other hother ↦ ?_⟩
        obtain rfl : other = deviceId := by simpa using hother
        rintro rfl
        exact hnew hid
      · simp only [Tables.references, NumberedTable.rows_insert, List.map_append,
          List.mem_append, List.mem_map, List.mem_singleton] at hid ⊢
        grind [ChildInsert.deviceId]

/-- All inserts for a known device succeed, one after the other. -/
theorem performs_of_known {db : Db} {deviceId : Uuid} (hknown : deviceId ∈ db.deviceIds)
    {children : List ChildInsert} (hchildren : ∀ child ∈ children, child.deviceId = deviceId) :
    ∃ after, children.foldlM ChildInsert.perform db = .ok after := by
  induction children generalizing db with
  | nil => exact ⟨db, rfl⟩
  | cons child children ih =>
    rw [List.forall_mem_cons] at hchildren
    obtain ⟨middle, hmiddle, hids⟩ := perform_of_known child (hchildren.1 ▸ hknown)
    obtain ⟨after, hafter⟩ := ih (hids ▸ hknown) hchildren.2
    exact ⟨after, by rw [List.foldlM_cons, hmiddle]; exact hafter⟩

/-! ## The specification -/

/-- Do two rows describe the same physical phone? -/
def SameHardware (row other : DeviceRow) : Prop :=
  row.hardwareId ≠ none ∧ row.hardwareId = other.hardwareId

/-- The database after the upsert of a row, as a keyed upsert has to leave it. -/
structure Upserted (db : Db) (r : DeviceRow) (after : Db) : Prop where
  /-- one row carries the device id, and the hardware id if there is one -/
  row : ∃ row ∈ after.devices.rows, row.deviceId = r.deviceId ∧
    (∀ other ∈ after.devices.rows, other.deviceId = r.deviceId → other = row) ∧
    (r.hardwareId ≠ none → row.hardwareId = r.hardwareId ∧
      ∀ other ∈ after.devices.rows, other.hardwareId = r.hardwareId → other = row) ∧
    row.name = r.name ∧ row.publicKey = r.publicKey ∧ row.lastSeen = r.lastSeen
  /-- the history of the physical phone survives under the new device id -/
  history : ∀ previous ∈ db.devices.rows, SameHardware r previous →
    (∀ n ∈ db.notifications.rows, n.deviceId = previous.deviceId →
      { n with deviceId := r.deviceId } ∈ after.notifications.rows) ∧
    (∀ s ∈ db.smsMessages.rows, s.deviceId = previous.deviceId →
      { s with deviceId := r.deviceId } ∈ after.smsMessages.rows) ∧
    (∀ c ∈ db.calls.rows, c.deviceId = previous.deviceId →
      { c with deviceId := r.deviceId } ∈ after.calls.rows) ∧
    ∀ p ∈ db.pairings.rows, p.deviceId = previous.deviceId →
      { p with deviceId := r.deviceId } ∈ after.pairings.rows
  /-- the rows of other devices stay -/
  others : ∀ deviceId, deviceId ≠ r.deviceId →
    (∀ previous ∈ db.devices.rows, SameHardware r previous → previous.deviceId ≠ deviceId) →
    after.owned deviceId = db.owned deviceId
  /-- child rows can be inserted from now on -/
  inserts : ∀ children : List ChildInsert, (∀ child ∈ children, child.deviceId = r.deviceId) →
    ∃ later, children.foldlM ChildInsert.perform after = .ok later

/-- The upsert succeeds and is a keyed upsert. -/
def CorrectUpsert (db : Db) (r : DeviceRow) : Prop :=
  ∃ after, db.upsertDevice r = .ok after ∧ Upserted db r after

/-- The incoming row collides with what is stored: two rows already carry its hardware id, or a row
carries it under another device id and either the new device id is taken or the old one has child
rows. -/
def Collides (db : Db) (r : DeviceRow) : Prop :=
  (∃ row ∈ db.devices.rows, ∃ other ∈ db.devices.rows, row ≠ other ∧ SameHardware r row ∧
    SameHardware r other) ∨
  ∃ row ∈ db.devices.rows, SameHardware r row ∧ row.deviceId ≠ r.deviceId ∧
    (r.deviceId ∈ db.deviceIds ∨ row.deviceId ∈ db.references)

/-! ## Putting one row in the place of another -/

/-- Tables in which one device row has come in, in the place of an old one if there is one. -/
structure Replaced (db : Db) (t : Tables) (old : Option DeviceRow) (new : DeviceRow) : Prop where
  rest : t = { db.toTables with devices := t.devices }
  stored : ∀ row ∈ old, row ∈ db.devices.rows
  mem : ∀ other, other ∈ t.devices.rows ↔ other = new ∨ other ∈ db.devices.rows ∧ some other ≠ old
  frame : ∀ mine : DeviceRow → Bool, mine new = false → (∀ row ∈ old, mine row = false) →
    t.devices.rows.filter mine = db.devices.rows.filter mine

section Replaced

variable {db : Db} {r new row : DeviceRow} {old : Option DeviceRow} {t : Tables}

theorem Replaced.references (h : Replaced db t old new) : t.references = db.references := by
  rw [h.rest]
  rfl

/-- When the constraints hold after a replacement. -/
theorem Replaced.constraints (h : Replaced db t old new)
    (hids : ∀ other ∈ db.devices.rows, some other ≠ old → other.deviceId ≠ new.deviceId)
    (hold : ∀ row ∈ old, row.deviceId = new.deviceId ∨ row.deviceId ∉ db.references) :
    t.Unique ∧ t.ForeignKeys := by
  refine ⟨⟨?_, ?_⟩, fun id hid ↦ ?_⟩
  · refine List.Nodup.map_on (fun row hrow other hother heq ↦ ?_) t.devices.nodup_rows
    rcases (h.mem row).mp hrow with rfl | ⟨hrow, hkept⟩ <;>
      rcases (h.mem other).mp hother with rfl | ⟨hother, hkept'⟩
    · rfl
    · exact absurd heq.symm (hids other hother hkept')
    · exact absurd heq (hids row hrow hkept)
    · exact db.eq_of_deviceId_eq hrow hother heq
  · rw [h.rest]
    exact db.unique.pairings
  · rw [h.references] at hid
    obtain ⟨row, hrow, rfl⟩ := Tables.mem_deviceIds.mp (db.foreignKeys id hid)
    rw [Tables.mem_deviceIds]
    by_cases hkept : some row = old
    · rcases hold row hkept.symm with hsame | hunused
      · exact ⟨new, (h.mem new).mpr (.inl rfl), hsame.symm⟩
      · exact absurd hid hunused
    · exact ⟨row, (h.mem row).mpr (.inr ⟨hrow, hkept⟩), rfl⟩

/-- A replacement by the incoming data is a keyed upsert. -/
theorem Replaced.upserted {after : Db} (h : Replaced db after.toTables old new)
    (hdeviceId : new.deviceId = r.deviceId) (hhardware : r.hardwareId ≠ none →
      new.hardwareId = r.hardwareId)
    (hname : new.name = r.name) (hkey : new.publicKey = r.publicKey)
    (hseen : new.lastSeen = r.lastSeen)
    (hsame : ∀ row ∈ db.devices.rows, SameHardware r row → some row = old)
    (hold : ∀ row ∈ old, row.deviceId = r.deviceId ∨
      SameHardware r row ∧ row.deviceId ∉ db.references) :
    Upserted db r after := by
  have hmem : new ∈ after.devices.rows := (h.mem new).mpr (.inl rfl)
  refine ⟨⟨new, hmem, hdeviceId, fun other hother heq ↦ ?_, fun hsome ↦ ⟨hhardware hsome,
    fun other hother heq ↦ ?_⟩, hname, hkey, hseen⟩, fun previous hprevious hphone ↦ ?_,
    fun deviceId hne hothers ↦ ?_, fun children hchildren ↦ ?_⟩
  · exact after.eq_of_deviceId_eq hother hmem (heq.trans hdeviceId.symm)
  · rcases (h.mem other).mp hother with rfl | ⟨hother, hkept⟩
    · rfl
    · exact absurd (hsame other hother ⟨hsome, heq.symm⟩) hkept
  · have hchild : ∀ id ∈ db.references, id = previous.deviceId → id = r.deviceId := by
      rintro id hid rfl
      rcases hold previous (hsame previous hprevious hphone).symm with heq | ⟨-, hunused⟩
      · exact heq
      · exact absurd hid hunused
    rw [h.rest]
    refine ⟨fun n hn hid ↦ ?_, fun s hs hid ↦ ?_, fun c hc hid ↦ ?_, fun p hp hid ↦ ?_⟩
    · rwa [← hchild n.deviceId (by simp [Tables.references]; grind) hid]
    · rwa [← hchild s.deviceId (by simp [Tables.references]; grind) hid]
    · rwa [← hchild c.deviceId (by simp [Tables.references]; grind) hid]
    · rwa [← hchild p.deviceId (by simp [Tables.references]; grind) hid]
  · have hframe := h.frame (·.deviceId = deviceId) (by simpa [hdeviceId] using Ne.symm hne) ?_
    · rw [h.rest]
      simp only [Tables.owned, hframe]
    · intro row hrow
      rcases hold row hrow with heq | ⟨hphone, -⟩
      · simpa [heq] using Ne.symm hne
      · simpa using hothers row (h.stored row hrow) hphone
  · exact performs_of_known (by
      rw [← hdeviceId]
      exact Tables.mem_deviceIds.mpr ⟨new, hmem, rfl⟩) hchildren

/-- Changing a single row replaces it. -/
theorem replaced_of_update {devices : NumberedTable DeviceRow (·.id)} (cond : DeviceRow → Bool)
    (set : DeviceRow → DeviceRow) (hrow : row ∈ db.devices.rows)
    (hrows : devices.rows = db.devices.rows.map fun x ↦ if cond x then set x else x)
    (hcond : ∀ x ∈ db.devices.rows, cond x = true ↔ x = row) :
    Replaced db { db.toTables with devices } (some row) (set row) := by
  refine ⟨rfl, by simpa using hrow, fun other ↦ ?_, fun mine hnew hold ↦ ?_⟩
  · rw [hrows, List.mem_map]
    constructor
    · rintro ⟨x, hx, rfl⟩
      by_cases h : cond x = true
      · rw [if_pos h, (hcond x hx).mp h]
        exact .inl rfl
      · rw [if_neg h]
        exact .inr ⟨hx, fun heq ↦ h ((hcond x hx).mpr (Option.some.inj heq))⟩
    · rintro (rfl | ⟨hother, hkept⟩)
      · exact ⟨row, hrow, if_pos ((hcond row hrow).mpr rfl)⟩
      · refine ⟨other, hother, if_neg fun h ↦ hkept ?_⟩
        rw [(hcond other hother).mp h]
  · rw [hrows]
    refine filter_map_ite_of_not fun x hx hx' ↦ ?_
    rw [(hcond x hx).mp hx']
    exact ⟨hold row rfl, hnew⟩

theorem replaced_refreshDevice (hrow : row ∈ db.devices.rows) :
    Replaced db (db.refreshDevice row.id r) (some row) { r with id := row.id } := by
  refine replaced_of_update (·.id = row.id) (fun old ↦ { r with id := old.id }) hrow rfl fun x hx ↦ ?_
  rw [decide_eq_true_eq]
  exact ⟨fun h ↦ db.devices.eq_of_number_eq hx hrow h, fun h ↦ congrArg _ h⟩

/-- The row that `ON CONFLICT(device_id)` leaves in the place of a known one. -/
def DeviceRow.mergedWith (r old : DeviceRow) : DeviceRow where
  id := old.id
  name := r.name
  deviceId := old.deviceId
  publicKey := r.publicKey
  lastSeen := r.lastSeen
  paired := old.paired
  hardwareId := r.hardwareId.or old.hardwareId

theorem replaced_insertOrUpdate_known (hrow : row ∈ db.devices.rows)
    (hdevice : row.deviceId = r.deviceId) :
    Replaced db (db.insertOrUpdateDevice r) (some row) (r.mergedWith row) := by
  rw [Tables.insertOrUpdateDevice, if_pos (Tables.mem_deviceIds.mpr ⟨row, hrow, hdevice⟩)]
  refine replaced_of_update (·.deviceId = r.deviceId) r.mergedWith hrow rfl fun x hx ↦ ?_
  rw [decide_eq_true_eq, ← hdevice]
  exact ⟨fun h ↦ db.eq_of_deviceId_eq hx hrow h, fun h ↦ congrArg _ h⟩

theorem replaced_insertOrUpdate_new (hnew : r.deviceId ∉ db.deviceIds) :
    Replaced db (db.insertOrUpdateDevice r) none { r with id := db.devices.last + 1 } := by
  rw [Tables.insertOrUpdateDevice, if_neg hnew]
  refine ⟨rfl, by simp, fun other ↦ ?_, fun mine hmine _ ↦ ?_⟩
  · simp [or_comm]
  · simp [hmine]

end Replaced

/-! ## When the upsert is correct -/

section Upsert

variable {db : Db} {r row : DeviceRow}

theorem findHardware_eq_some (h : db.findHardware r = some row) :
    row ∈ db.devices.rows ∧ SameHardware r row := by
  obtain ⟨hw, hr, hfind⟩ := Option.bind_eq_some_iff.mp h
  have hrow : row.hardwareId = some hw := by simpa using List.find?_some hfind
  exact ⟨List.mem_of_find?_eq_some hfind, by simp [hr], by rw [hr, hrow]⟩

theorem findHardware_eq_none (h : db.findHardware r = none) :
    ∀ row ∈ db.devices.rows, ¬ SameHardware r row := by
  rintro row hrow ⟨hsome, heq⟩
  obtain ⟨hw, hr⟩ := Option.ne_none_iff_exists'.mp hsome
  rw [Db.findHardware, hr, Option.bind_some, List.find?_eq_none] at h
  exact h row hrow (by simp [← heq, hr])

/-- Where nothing collides, the upsert succeeds as it should. -/
theorem correctUpsert_of_not_collides (h : ¬ Collides db r) : CorrectUpsert db r := by
  rw [Collides, not_or] at h
  obtain ⟨hsingle, hfree⟩ := h
  cases hfound : db.findHardware r with
  | some row =>
    obtain ⟨hrow, hphone⟩ := findHardware_eq_some hfound
    have hreplaced := replaced_refreshDevice (r := r) hrow
    have honly : ∀ other ∈ db.devices.rows, SameHardware r other → some other = some row :=
      fun other hother hother' ↦ by_contra fun hne ↦
        hsingle ⟨row, hrow, other, hother, fun heq ↦ hne (heq ▸ rfl), hphone, hother'⟩
    have hids : ∀ other ∈ db.devices.rows, some other ≠ some row →
        other.deviceId ≠ r.deviceId := by
      intro other hother hne heq
      by_cases hown : row.deviceId = r.deviceId
      · exact hne (congrArg some (db.eq_of_deviceId_eq hother hrow (heq.trans hown.symm)))
      · exact hfree ⟨row, hrow, hphone, hown, .inl (Tables.mem_deviceIds.mpr ⟨other, hother, heq⟩)⟩
    have hold : row.deviceId = r.deviceId ∨ row.deviceId ∉ db.references := by
      by_cases hown : row.deviceId = r.deviceId
      · exact .inl hown
      · exact .inr fun hused ↦ hfree ⟨row, hrow, hphone, hown, .inr hused⟩
    obtain ⟨after, hafter⟩ := Tables.commit_succeeds.mpr
      (hreplaced.constraints hids (by simpa using hold))
    refine ⟨after, by rw [Db.upsertDevice, hfound]; exact hafter, ?_⟩
    rw [← Tables.commit_eq_ok.mp hafter] at hreplaced
    exact hreplaced.upserted rfl (fun _ ↦ rfl) rfl rfl rfl honly
      (by simpa using hold.imp_right fun hunused ↦ ⟨hphone, hunused⟩)
  | none =>
    have hnobody := findHardware_eq_none hfound
    by_cases hknown : r.deviceId ∈ db.deviceIds
    · obtain ⟨row, hrow, hdevice⟩ := Tables.mem_deviceIds.mp hknown
      have hreplaced := replaced_insertOrUpdate_known (r := r) hrow hdevice
      obtain ⟨after, hafter⟩ := Tables.commit_succeeds.mpr (hreplaced.constraints
        (fun other hother hne heq ↦ hne (congrArg some (db.eq_of_deviceId_eq hother hrow heq)))
        (by simp [DeviceRow.mergedWith]))
      refine ⟨after, by rw [Db.upsertDevice, hfound]; exact hafter, ?_⟩
      rw [← Tables.commit_eq_ok.mp hafter] at hreplaced
      refine hreplaced.upserted hdevice (fun hsome ↦ ?_) rfl rfl rfl
        (fun other hother hphone ↦ absurd hphone (hnobody other hother)) (by simp [hdevice])
      obtain ⟨hw, hr⟩ := Option.ne_none_iff_exists'.mp hsome
      simp [DeviceRow.mergedWith, hr]
    · have hreplaced := replaced_insertOrUpdate_new hknown
      obtain ⟨after, hafter⟩ := Tables.commit_succeeds.mpr (hreplaced.constraints
        (fun other hother _ heq ↦ hknown (Tables.mem_deviceIds.mpr ⟨other, hother, heq⟩))
        (by simp))
      refine ⟨after, by rw [Db.upsertDevice, hfound]; exact hafter, ?_⟩
      rw [← Tables.commit_eq_ok.mp hafter] at hreplaced
      exact hreplaced.upserted rfl (fun _ ↦ rfl) rfl rfl rfl
        (fun other hother hphone ↦ absurd hphone (hnobody other hother)) (by simp)

/-- A collision keeps the upsert from succeeding, or leaves two rows for one phone. -/
theorem not_collides_of_correctUpsert (h : CorrectUpsert db r) : ¬ Collides db r := by
  obtain ⟨after, hupsert, hafter⟩ := h
  obtain ⟨kept, -, -, hdevices, hphones, -⟩ := hafter.row
  have hrefreshed : ∀ row ∈ db.devices.rows, SameHardware r row → ∃ found ∈ db.devices.rows,
      SameHardware r found ∧ Replaced db after.toTables (some found) { r with id := found.id } := by
    intro row hrow hphone
    cases hfound : db.findHardware r with
    | none => exact absurd hphone (findHardware_eq_none hfound row hrow)
    | some found =>
      obtain ⟨hmem, hsame⟩ := findHardware_eq_some hfound
      rw [Db.upsertDevice, hfound] at hupsert
      refine ⟨found, hmem, hsame, ?_⟩
      rw [Tables.commit_eq_ok.mp hupsert]
      exact replaced_refreshDevice hmem
  -- a row other than the found one stays next to the refreshed one
  have hstays : ∀ found ∈ db.devices.rows, ∀ other ∈ db.devices.rows, other ≠ found →
      Replaced db after.toTables (some found) { r with id := found.id } →
      other ∈ after.devices.rows ∧ other ≠ { r with id := found.id } ∧
        { r with id := found.id } ∈ after.devices.rows := by
    intro found hfound other hother hne hreplaced
    refine ⟨(hreplaced.mem other).mpr (.inr ⟨hother, by simpa using hne⟩), fun heq ↦ hne ?_,
      (hreplaced.mem _).mpr (.inl rfl)⟩
    exact db.devices.eq_of_number_eq hother hfound (by rw [heq])
  have honly : ∀ row ∈ db.devices.rows, SameHardware r row →
      Replaced db after.toTables (some row) { r with id := row.id } := by
    intro row hrow hphone
    obtain ⟨found, hfound, hsame, hreplaced⟩ := hrefreshed row hrow hphone
    by_cases heq : row = found
    · exact heq ▸ hreplaced
    · obtain ⟨hmem, hne, hnew⟩ := hstays found hfound row hrow heq hreplaced
      have hsingle := (hphones hphone.1).2
      exact absurd ((hsingle row hmem hphone.2.symm).trans (hsingle _ hnew rfl).symm) hne
  rintro (⟨row, hrow, other, hother, hne, hphone, hphone'⟩ | ⟨row, hrow, hphone, hother, hused⟩)
  · obtain ⟨hmem, hdistinct, hnew⟩ :=
      hstays row hrow other hother (Ne.symm hne) (honly row hrow hphone)
    have hsingle := (hphones hphone.1).2
    exact hdistinct ((hsingle other hmem hphone'.2.symm).trans (hsingle _ hnew rfl).symm)
  · have hreplaced := honly row hrow hphone
    rcases hused with htaken | hchild
    · obtain ⟨taken, htaken, heq⟩ := Tables.mem_deviceIds.mp htaken
      obtain ⟨hmem, hdistinct, hnew⟩ := hstays row hrow taken htaken
        (fun h ↦ hother (h ▸ heq)) hreplaced
      exact hdistinct ((hdevices taken hmem heq).trans (hdevices _ hnew rfl).symm)
    · rw [← hreplaced.references] at hchild
      obtain ⟨parent, hparent, heq⟩ := Tables.mem_deviceIds.mp (after.foreignKeys _ hchild)
      rcases (hreplaced.mem parent).mp hparent with rfl | ⟨hparent, hkept⟩
      · exact hother heq.symm
      · exact hkept (congrArg some (db.eq_of_deviceId_eq hparent hrow heq))

/-- An upsert is a correct keyed upsert exactly when its row does not collide. -/
theorem correctUpsert_iff (db : Db) (r : DeviceRow) : CorrectUpsert db r ↔ ¬ Collides db r :=
  ⟨not_collides_of_correctUpsert, correctUpsert_of_not_collides⟩

end Upsert

/-! ## A phone that comes back under a new device id -/

/-- A phone with a hardware id. -/
def samplePhone : DeviceRow where
  id := 0
  name := "Pixel"
  deviceId := ⟨1⟩
  publicKey := ""
  lastSeen := 1
  paired := false
  hardwareId := some "android-id"

def sampleNotification : NotificationRow where
  id := "0|com.example.mail|1"
  deviceId := ⟨1⟩
  packageName := "com.example.mail"
  appName := none
  title := "Hello"
  content := "World"
  postedAt := 1000
  isSensitive := false
  category := none
  read := false

/-- The phone has said hello and sent a notification. -/
def sampleHistory : Except DbError Db := do
  let known ← Db.empty.upsertDevice samplePhone
  known.insertNotification sampleNotification

/-- The history of a phone keeps its next hello with a new device id out. -/
theorem history_blocks_upsert : ¬ ∀ (db : Db) (r : DeviceRow), CorrectUpsert db r := by
  intro h
  obtain ⟨db, hdb⟩ : ∃ db, sampleHistory = .ok db := ⟨_, rfl⟩
  obtain ⟨after, hafter, -⟩ := h db { samplePhone with deviceId := ⟨2⟩ }
  have hfails : (sampleHistory >>= (·.upsertDevice { samplePhone with deviceId := ⟨2⟩ })) =
      .error .foreignKey := rfl
  rw [hdb] at hfails
  exact absurd (hafter.symm.trans hfails) (by simp)

end PhoneBridge.Storage
