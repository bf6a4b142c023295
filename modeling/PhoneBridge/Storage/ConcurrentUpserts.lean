import PhoneBridge.Library.KeyMap
import PhoneBridge.Library.Run
import PhoneBridge.Storage.UpsertDevice

/-!
# Upserts that run at the same time

`upsert_device` looks a phone up by its hardware id in one statement and writes in another, outside a
transaction, and no constraint of the table stands behind the lookup. A run is any number of such
calls, with removals among them, statement by statement.
-/

namespace PhoneBridge.Storage

open Library

/-- The next statement of a call. -/
inductive DeviceCall
  /-- `upsert_device` before its `SELECT` -/
  | select (d : DeviceRow)
  /-- `upsert_device` with the row that the `SELECT` has found -/
  | update (id : Nat) (d : DeviceRow)
  /-- `upsert_device` without such a row -/
  | insert (d : DeviceRow)
  | delete (deviceId : Uuid)

abbrev DeviceCallId := Nat

/-- The database with the calls that are under way. -/
structure DevicePool where
  db : Db
  calls : KeyMap DeviceCallId DeviceCall

inductive PoolLabel
  | upsertDevice (id : DeviceCallId) (d : DeviceRow)
  | removeDevice (id : DeviceCallId) (deviceId : Uuid)
  /-- the next statement of a call is executed -/
  | statement (id : DeviceCallId)
  /-- the next statement of a call fails, by a timeout or an I/O error -/
  | fails (id : DeviceCallId)

namespace DevicePool

def start (db : Db) : DevicePool where
  db
  calls := .empty

def call (s : DevicePool) (id : DeviceCallId) (next : DeviceCall) : Option DevicePool :=
  if (s.calls.get id).isSome then none else some { s with calls := s.calls.insert id next }

/-- The call ends with a statement; one that violates a constraint changes nothing. -/
def finish (s : DevicePool) (id : DeviceCallId) (result : Except DbError Db) : DevicePool where
  db := result.toOption.getD s.db
  calls := s.calls.remove id

def statement (s : DevicePool) (id : DeviceCallId) : Option DevicePool :=
  (s.calls.get id).map fun next ↦
    match next with
    | .select d =>
      match s.db.findHardware d with
      | some row => { s with calls := s.calls.insert id (.update row.id d) }
      | none => { s with calls := s.calls.insert id (.insert d) }
    | .update rowId d => s.finish id (s.db.refreshDevice rowId d).commit
    | .insert d => s.finish id (s.db.insertOrUpdateDevice d).commit
    | .delete deviceId => s.finish id (s.db.removeDevice deviceId)

def step (s : DevicePool) : PoolLabel → Option DevicePool
  | .upsertDevice id d => s.call id (if d.hardwareId.isSome then .select d else .insert d)
  | .removeDevice id deviceId => s.call id (.delete deviceId)
  | .statement id => s.statement id
  | .fails id => (s.calls.get id).map fun _ ↦ { s with calls := s.calls.remove id }

/-- No two rows share a hardware id, or a device id. -/
structure OneRowPerDevice (db : Db) : Prop where
  hardware : ∀ row ∈ db.devices.rows, ∀ other ∈ db.devices.rows, SameHardware row other →
    row = other
  deviceId : ∀ row ∈ db.devices.rows, ∀ other ∈ db.devices.rows, row.deviceId = other.deviceId →
    row = other

/-- The `UPDATE` meets the constraints: the row is there, no other row has the new device id, and
the old one stays or has no child rows. -/
def Updates (db : Db) (rowId : Nat) (d : DeviceRow) : Prop :=
  ∃ row ∈ db.devices.rows, row.id = rowId ∧
    (∀ other ∈ db.devices.rows, other.deviceId = d.deviceId → other = row) ∧
    (row.deviceId = d.deviceId ∨ row.deviceId ∉ db.references)

/-- When the statement writes a hardware id, no row carries it but the one that it writes. -/
def Uncontended (s : DevicePool) : PoolLabel → Prop
  | .statement id =>
    match s.calls.get id with
    | some (.update rowId d) => Updates s.db rowId d →
      ∀ row ∈ s.db.devices.rows, SameHardware d row → row.id = rowId
    | some (.insert d) => ∀ row ∈ s.db.devices.rows, SameHardware d row → row.deviceId = d.deviceId
    | _ => True
  | _ => True

end DevicePool

/-! ## One row in the place of another -/

section Replaced

variable {db after : Db} {old : Option DeviceRow} {new : DeviceRow}

/-- A row that no other one shares its hardware id with may come in. -/
theorem Replaced.distinct (h : Replaced db after.toTables old new)
    (hdistinct : ∀ row ∈ db.devices.rows, ∀ other ∈ db.devices.rows, SameHardware row other →
      row = other)
    (halone : ∀ row ∈ db.devices.rows, SameHardware new row → some row = old) :
    ∀ row ∈ after.devices.rows, ∀ other ∈ after.devices.rows, SameHardware row other →
      row = other := by
  intro row hrow other hother hsame
  have hsymm : SameHardware other row := ⟨hsame.2 ▸ hsame.1, hsame.2.symm⟩
  rcases (h.mem row).mp hrow with rfl | ⟨hrow, hkept⟩
  · rcases (h.mem other).mp hother with rfl | ⟨hother, hkept'⟩
    · rfl
    · exact absurd (halone other hother hsame) hkept'
  · rcases (h.mem other).mp hother with rfl | ⟨hother, hkept'⟩
    · exact absurd (halone row hrow hsymm) hkept
    · exact hdistinct row hrow other hother hsame

/-- A row that comes in beside one with the same hardware id makes two. -/
theorem Replaced.shared (h : Replaced db after.toTables old new) {row : DeviceRow}
    (hrow : row ∈ db.devices.rows) (hsame : SameHardware new row) (hkept : some row ≠ old)
    (hne : row ≠ new) : ¬ ∀ row ∈ after.devices.rows, ∀ other ∈ after.devices.rows,
      SameHardware row other → row = other := by
  intro hdistinct
  have hnew : new ∈ after.devices.rows := (h.mem new).mpr (.inl rfl)
  have hstays : row ∈ after.devices.rows := (h.mem row).mpr (.inr ⟨hrow, hkept⟩)
  exact hne (hdistinct new hnew row hstays hsame).symm

end Replaced

/-! ## The two writing statements -/

section Writes

variable {db after : Db} {d row : DeviceRow}

/-- An `UPDATE` that meets the constraints replaces its row. -/
theorem refreshDevice_of_updates {rowId : Nat} (h : DevicePool.Updates db rowId d) :
    ∃ row ∈ db.devices.rows, row.id = rowId ∧ ∃ after,
      (db.refreshDevice rowId d).commit = .ok after ∧
        Replaced db after.toTables (some row) { d with id := row.id } := by
  obtain ⟨row, hrow, rfl, hfree, hunused⟩ := h
  have hreplaced := replaced_refreshDevice (r := d) hrow
  have hconstraints := hreplaced.constraints
    (fun other hother hkept heq ↦ hkept (congrArg some (hfree other hother heq)))
    (by simpa using hunused)
  obtain ⟨after, hafter⟩ := Tables.commit_succeeds.mpr hconstraints
  refine ⟨row, hrow, rfl, after, hafter, ?_⟩
  rwa [Tables.commit_eq_ok.mp hafter]

/-- An `UPDATE` of a row that is there succeeds only if it meets the constraints. -/
theorem updates_of_refreshDevice (hrow : row ∈ db.devices.rows)
    (hafter : (db.refreshDevice row.id d).commit = .ok after) :
    DevicePool.Updates db row.id d := by
  have hreplaced := replaced_refreshDevice (r := d) hrow
  rw [← Tables.commit_eq_ok.mp hafter] at hreplaced
  have hnew : { d with id := row.id } ∈ after.devices.rows := (hreplaced.mem _).mpr (.inl rfl)
  refine ⟨row, hrow, rfl, ?_, ?_⟩
  · intro other hother heq
    by_contra hne
    have hstays : other ∈ after.devices.rows :=
      (hreplaced.mem other).mpr (.inr ⟨hother, fun hsome ↦ hne (Option.some.inj hsome)⟩)
    have hid := congrArg DeviceRow.id (after.eq_of_deviceId_eq hstays hnew heq)
    exact hne (db.devices.eq_of_number_eq hother hrow hid)
  · by_contra hneither
    obtain ⟨hchanged, hused⟩ := not_or.mp hneither
    rw [not_not, ← hreplaced.references] at hused
    obtain ⟨parent, hparent, heq⟩ := Tables.mem_deviceIds.mp (after.foreignKeys _ hused)
    rcases (hreplaced.mem parent).mp hparent with rfl | ⟨hparent, hkept⟩
    · exact hchanged heq.symm
    · exact hkept (congrArg some (db.eq_of_deviceId_eq hparent hrow heq))

/-- What an `INSERT` leaves: its row, in the place of the one with the device id if there is one. -/
structure Inserted (db after : Db) (d new : DeviceRow) (old : Option DeviceRow) : Prop where
  replaced : Replaced db after.toTables old new
  deviceId : new.deviceId = d.deviceId
  conflict : ∀ row ∈ db.devices.rows, row.deviceId = d.deviceId ↔ some row = old
  hardware : d.hardwareId ≠ none → new.hardwareId = d.hardwareId
  inherited : d.hardwareId = none → new.hardwareId ≠ none →
    ∃ row ∈ old, row.hardwareId = new.hardwareId

/-- The `INSERT` cannot fail. -/
theorem insertOrUpdateDevice_succeeds (db : Db) (d : DeviceRow) : ∃ after old new,
    (db.insertOrUpdateDevice d).commit = .ok after ∧ Inserted db after d new old := by
  by_cases hknown : d.deviceId ∈ db.deviceIds
  · obtain ⟨row, hrow, hdevice⟩ := Tables.mem_deviceIds.mp hknown
    have hreplaced := replaced_insertOrUpdate_known hrow hdevice
    have honly : ∀ other ∈ db.devices.rows,
        other.deviceId = d.deviceId ↔ some other = some row := by
      intro other hother
      rw [Option.some.injEq]
      constructor
      · intro heq
        exact db.eq_of_deviceId_eq hother hrow (heq.trans hdevice.symm)
      · rintro rfl
        exact hdevice
    have hconstraints := hreplaced.constraints
      (fun other hother hkept heq ↦ hkept ((honly other hother).mp (heq.trans hdevice)))
      (by simp [DeviceRow.mergedWith])
    obtain ⟨after, hafter⟩ := Tables.commit_succeeds.mpr hconstraints
    rw [← Tables.commit_eq_ok.mp hafter] at hreplaced
    refine ⟨after, some row, d.mergedWith row, hafter, hreplaced, hdevice, honly, ?_, ?_⟩
    · intro hsome
      obtain ⟨hw, hhw⟩ := Option.ne_none_iff_exists'.mp hsome
      simp [DeviceRow.mergedWith, hhw]
    · intro hnone _
      exact ⟨row, rfl, by simp [DeviceRow.mergedWith, hnone]⟩
  · have hreplaced := replaced_insertOrUpdate_new hknown
    have hnone : ∀ other ∈ db.devices.rows, other.deviceId ≠ d.deviceId :=
      fun other hother heq ↦ hknown (Tables.mem_deviceIds.mpr ⟨other, hother, heq⟩)
    have hconstraints := hreplaced.constraints (fun other hother _ ↦ hnone other hother) (by simp)
    obtain ⟨after, hafter⟩ := Tables.commit_succeeds.mpr hconstraints
    rw [← Tables.commit_eq_ok.mp hafter] at hreplaced
    refine ⟨after, none, { d with id := db.devices.last + 1 }, hafter, hreplaced, rfl, ?_,
      fun _ ↦ rfl, fun hnone hsome ↦ absurd hnone hsome⟩
    intro other hother
    simp [hnone other hother]

end Writes

namespace DevicePool

/-! ## Runs -/

theorem oneRowPerDevice_iff (db : Db) : OneRowPerDevice db ↔ ∀ row ∈ db.devices.rows,
    ∀ other ∈ db.devices.rows, SameHardware row other → row = other :=
  ⟨fun h ↦ h.hardware, fun h ↦ ⟨h, fun _ hrow _ hother heq ↦ db.eq_of_deviceId_eq hrow hother heq⟩⟩

variable {s t : DevicePool} {label : PoolLabel}

/-- The row that an uncontended `INSERT` leaves shares its hardware id with no other. -/
theorem oneRow_insert {db after : Db} {d new : DeviceRow} {old : Option DeviceRow}
    (h : Inserted db after d new old) (hdb : OneRowPerDevice db)
    (halone : ∀ row ∈ db.devices.rows, SameHardware d row → row.deviceId = d.deviceId) :
    OneRowPerDevice after := by
  rw [oneRowPerDevice_iff]
  apply h.replaced.distinct hdb.hardware
  intro row hrow hsame
  by_cases hnone : d.hardwareId = none
  · obtain ⟨previous, hprevious, heq⟩ := h.inherited hnone hsame.1
    have hshared : SameHardware row previous :=
      ⟨fun h ↦ hsame.1 (hsame.2.trans h), (heq.trans hsame.2).symm⟩
    rw [hdb.hardware row hrow previous (h.replaced.stored previous hprevious) hshared]
    exact hprevious.symm
  · have hd : SameHardware d row := ⟨hnone, (h.hardware hnone).symm.trans hsame.2⟩
    exact (h.conflict row hrow).mp (halone row hrow hd)

/-- A row that is not there, or cannot take the new device id, stays out of it. -/
theorem devices_refresh_of_not {db : Db} {rowId : Nat} {d : DeviceRow} (h : ¬ Updates db rowId d) :
    ((db.refreshDevice rowId d).commit.toOption.getD db).devices.rows = db.devices.rows := by
  cases hcommit : (db.refreshDevice rowId d).commit with
  | error e => rfl
  | ok after =>
    have habsent : ∀ row ∈ db.devices.rows, row.id ≠ rowId := by
      rintro row hrow rfl
      exact h (updates_of_refreshDevice hrow hcommit)
    change after.devices.rows = db.devices.rows
    rw [Tables.commit_eq_ok.mp hcommit, Tables.refreshDevice, NumberedTable.rows_update]
    calc
      _ = db.devices.rows.map id :=
        List.map_congr_left fun row hrow ↦ by simp [habsent row hrow]
      _ = db.devices.rows := List.map_id _

/-- An uncontended `UPDATE` leaves one row for each device. -/
theorem oneRow_update {db : Db} {rowId : Nat} {d : DeviceRow} (hdb : OneRowPerDevice db)
    (halone : Updates db rowId d → ∀ row ∈ db.devices.rows, SameHardware d row → row.id = rowId) :
    OneRowPerDevice ((db.refreshDevice rowId d).commit.toOption.getD db) := by
  rw [oneRowPerDevice_iff]
  by_cases hupdates : Updates db rowId d
  · obtain ⟨row, hrow, hid, after, hafter, hreplaced⟩ := refreshDevice_of_updates hupdates
    rw [hafter]
    apply hreplaced.distinct hdb.hardware
    intro other hother hsame
    exact congrArg some (db.devices.eq_of_number_eq hother hrow
      ((halone hupdates other hother hsame).trans hid.symm))
  · rw [devices_refresh_of_not hupdates]
    exact hdb.hardware

/-- An uncontended step leaves one row for each device. -/
theorem oneRow_step (h : OneRowPerDevice s.db) (halone : s.Uncontended label)
    (hstep : s.step label = some t) : OneRowPerDevice t.db := by
  have hcall : ∀ {id next}, s.call id next = some t → t.db = s.db := by
    intro id next hcall
    unfold call at hcall
    split at hcall
    · cases hcall
    · cases hcall
      rfl
  cases label with
  | upsertDevice id d => rwa [hcall hstep]
  | removeDevice id deviceId => rwa [hcall hstep]
  | fails id =>
    obtain ⟨next, -, rfl⟩ := Option.map_eq_some_iff.mp hstep
    exact h
  | statement id =>
    obtain ⟨next, hnext, rfl⟩ := Option.map_eq_some_iff.mp hstep
    simp only [Uncontended, hnext] at halone
    cases next with
    | select d =>
      dsimp only
      split
      · exact h
      · exact h
    | update rowId d => exact oneRow_update h halone
    | insert d =>
      obtain ⟨after, old, new, hafter, hinserted⟩ := insertOrUpdateDevice_succeeds s.db d
      simp only [finish, hafter, Except.toOption, Option.getD_some]
      exact oneRow_insert hinserted h halone
    | delete deviceId =>
      rw [oneRowPerDevice_iff]
      intro row hrow other hother
      have hsub : ∀ row ∈ ((s.db.removeDevice deviceId).toOption.getD s.db).devices.rows,
          row ∈ s.db.devices.rows := by
        cases hremoved : s.db.removeDevice deviceId with
        | error e => exact fun _ hrow ↦ hrow
        | ok after =>
          intro row hrow
          rw [Except.toOption, Option.getD_some, Tables.commit_eq_ok.mp hremoved] at hrow
          exact List.mem_of_mem_filter hrow
      exact h.hardware row (hsub row hrow) other (hsub other hother)

/-- A contended step makes a second row. -/
theorem contended_step (hcontended : ¬ s.Uncontended label) :
    ∃ t, s.step label = some t ∧ ¬ OneRowPerDevice t.db := by
  cases label with
  | upsertDevice | removeDevice | fails => exact absurd trivial hcontended
  | statement id =>
    simp only [Uncontended] at hcontended
    split at hcontended
    · next rowId d hnext =>
      push Not at hcontended
      obtain ⟨hupdates, rival, hrival, hsame, hother⟩ := hcontended
      obtain ⟨row, hrow, rfl, after, hafter, hreplaced⟩ := refreshDevice_of_updates hupdates
      refine ⟨s.finish id (.ok after), by simp [step, statement, hnext, hafter], ?_⟩
      rw [oneRowPerDevice_iff]
      apply hreplaced.shared hrival hsame
      · rintro heq
        exact hother (congrArg DeviceRow.id (Option.some.inj heq))
      · intro heq
        have hid := congrArg DeviceRow.id heq
        exact hother hid
    · next d hnext =>
      push Not at hcontended
      obtain ⟨rival, hrival, hsame, hother⟩ := hcontended
      obtain ⟨after, old, new, hafter, hinserted⟩ := insertOrUpdateDevice_succeeds s.db d
      refine ⟨s.finish id (.ok after), by simp [step, statement, hnext, hafter], ?_⟩
      rw [oneRowPerDevice_iff]
      have hnew : SameHardware new rival := by
        rw [SameHardware, hinserted.hardware hsame.1]
        exact hsame
      apply hinserted.replaced.shared hrival hnew
      · exact fun heq ↦ hother ((hinserted.conflict rival hrival).mpr heq)
      · intro heq
        exact hother (heq ▸ hinserted.deviceId)
    · exact absurd trivial hcontended

/-- Every database that a run goes through has one row for each device exactly when the first one
has and every writing statement is uncontended. -/
theorem one_row_per_device_iff (db : Db) (labels : List PoolLabel) :
    Run.Always step (fun s ↦ OneRowPerDevice s.db) (start db) labels ↔
      OneRowPerDevice db ∧ Run.Throughout step Uncontended (start db) labels := by
  have hiff : OneRowPerDevice (start db).db →
      (Run.Always step (fun s ↦ OneRowPerDevice s.db) (start db) labels ↔
        Run.Throughout step Uncontended (start db) labels) :=
    Run.always_iff_throughout (fun s : DevicePool ↦ OneRowPerDevice s.db) (fun _ h ↦ h)
      (fun _ _ _ h halone hstep ↦ oneRow_step h halone hstep)
      fun _ _ _ hcontended ↦ contended_step hcontended
  constructor
  · intro h
    exact ⟨h.first, (hiff h.first).mp h⟩
  · rintro ⟨hdb, hguard⟩
    exact (hiff hdb).mpr hguard

/-! ## Two hellos of one phone -/

/-- A phone says hello on two connections, under the device id from before it was wiped and under
the new one. Both calls look it up before either has written. -/
def sampleRace : List PoolLabel := [
  .upsertDevice 1 samplePhone, .upsertDevice 2 { samplePhone with deviceId := ⟨2⟩ },
  .statement 1, .statement 2, .statement 1, .statement 2]

/-- The phone has two rows. -/
theorem race_makes_two_rows : ¬ ∀ (db : Db) (labels : List PoolLabel), OneRowPerDevice db →
    Run.Always step (fun s ↦ OneRowPerDevice s.db) (start db) labels := by
  intro h
  have hempty : OneRowPerDevice Db.empty := ⟨by simp [Db.empty], by simp [Db.empty]⟩
  obtain ⟨t, hrun, hrows⟩ : ∃ t, Run.exec step (start Db.empty) sampleRace = some t ∧
      t.db.devices.rows =
        [{ samplePhone with id := 1 }, { samplePhone with id := 2, deviceId := ⟨2⟩ }] :=
    ⟨_, rfl, rfl⟩
  have hone := ((h Db.empty sampleRace hempty).last hrun).hardware
  rw [hrows] at hone
  have hsame := hone _ List.mem_cons_self _ (List.mem_cons_of_mem _ List.mem_cons_self)
    ⟨by decide, rfl⟩
  exact absurd (congrArg DeviceRow.id hsame) (by decide)

end DevicePool

end PhoneBridge.Storage
