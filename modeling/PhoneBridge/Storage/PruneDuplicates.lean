import PhoneBridge.Library.Window
import PhoneBridge.Storage.Pool

/-!
# The cleanup of duplicate devices

The migration `prune_duplicate_devices`: of the devices without a hardware id it keeps the newest of
each name. The rows it deletes take their child rows along, so the history of a phone survives only
as far as it belongs to the newest row.
-/

namespace PhoneBridge.Storage

open Library

/-- `ORDER BY last_seen DESC, id DESC`. -/
def lastSeenFirst (row other : DeviceRow) : Bool :=
  other.lastSeen < row.lastSeen || (other.lastSeen = row.lastSeen && other.id ≤ row.id)

namespace Tables

variable (t : Tables)

/-- The devices without a hardware id. -/
def legacy : List DeviceRow := t.devices.rows.filter (·.hardwareId = none)

/-- The `rn` of the subquery. -/
def rn (row : DeviceRow) : Nat :=
  rowNumber lastSeenFirst (t.legacy.filter (·.name = row.name)) row

/-- What the subquery selects. -/
def duplicateIds : List Nat := (t.legacy.filter fun row ↦ 1 < t.rn row).map (·.id)

/-- `DELETE FROM devices WHERE id IN (…)`; `ON DELETE CASCADE` takes the child rows along. -/
def pruneDuplicates : Tables :=
  let deleted := (t.devices.rows.filter (·.id ∈ t.duplicateIds)).map (·.deviceId)
  { t with
    devices := t.devices.delete (·.id ∈ t.duplicateIds)
    pairings := t.pairings.delete (·.deviceId ∈ deleted)
    sessions := t.sessions.delete (·.deviceId ∈ deleted)
    notifications := t.notifications.delete (·.deviceId ∈ deleted)
    smsMessages := t.smsMessages.delete (·.deviceId ∈ deleted)
    calls := t.calls.delete (·.deviceId ∈ deleted) }

/-- The devices to which notifications, messages and calls belong. -/
def historyOwners : List Uuid :=
  t.notifications.rows.map (·.deviceId) ++ t.smsMessages.rows.map (·.deviceId) ++
    t.calls.rows.map (·.deviceId)

end Tables

/-- The migration. -/
def Db.pruneDuplicates (db : Db) : Except DbError Db := db.toTables.pruneDuplicates.commit

/-! ## The specification -/

/-- The row was seen later, or was inserted later among those seen last. -/
def Newer (row other : DeviceRow) : Prop :=
  other.lastSeen < row.lastSeen ∨ other.lastSeen = row.lastSeen ∧ other.id < row.id

/-- One row is left of the devices without a hardware id that share a name: the newest. The devices
with one are untouched. -/
structure KeepsNewest (before after : Tables) : Prop where
  newest : ∀ name, before.legacy.filter (·.name = name) ≠ [] →
    ∃ row ∈ before.legacy, row.name = name ∧ after.legacy.filter (·.name = name) = [row] ∧
      ∀ other ∈ before.legacy, other.name = name → other ≠ row → Newer row other
  legacy : ∀ row ∈ after.legacy, row ∈ before.legacy
  identified : ∀ row, row.hardwareId ≠ none →
    (row ∈ after.devices.rows ↔ row ∈ before.devices.rows)

/-- Every notification, message and call is still there, under whichever device, and belongs to a
device that is still there. -/
structure KeepsHistory (before after : Tables) : Prop where
  notifications : (before.notifications.rows.map ({ · with deviceId := .nil })).Subperm
    (after.notifications.rows.map ({ · with deviceId := .nil }))
  smsMessages : (before.smsMessages.rows.map ({ · with deviceId := .nil })).Subperm
    (after.smsMessages.rows.map ({ · with deviceId := .nil }))
  calls : (before.calls.rows.map ({ · with deviceId := .nil })).Subperm
    (after.calls.rows.map ({ · with deviceId := .nil }))
  owners : ∀ id ∈ after.historyOwners, id ∈ after.deviceIds

/-- Another device without a hardware id has the same name and is newer. -/
def Superseded (t : Tables) (row : DeviceRow) : Prop :=
  row ∈ t.legacy ∧ ∃ other ∈ t.legacy, other.name = row.name ∧ Newer other row

/-! ## Which rows are deleted -/

theorem lastSeenFirst_iff {row other : DeviceRow} :
    lastSeenFirst row other = true ↔ Newer row other ∨
      other.lastSeen = row.lastSeen ∧ other.id = row.id := by
  simp only [lastSeenFirst, Newer, Bool.or_eq_true, Bool.and_eq_true, decide_eq_true_eq,
    Nat.le_iff_lt_or_eq]
  tauto

theorem not_lastSeenFirst {row other : DeviceRow} :
    lastSeenFirst row other = false ↔ Newer other row := by
  simp only [lastSeenFirst, Newer, Bool.or_eq_false_iff, Bool.and_eq_false_iff,
    decide_eq_false_iff_not, Int64.lt_iff_toInt_lt, ← Int64.toInt_inj, not_lt, not_le]
  omega

theorem Newer.asymm {row other : DeviceRow} (h : Newer row other) : ¬ Newer other row := by
  simp only [Newer, Int64.lt_iff_toInt_lt, ← Int64.toInt_inj] at h ⊢
  omega

theorem ranks_lastSeenFirst (t : Tables) : Ranks lastSeenFirst t.devices.rows where
  trans a b c hab hbc := by
    simp only [lastSeenFirst_iff, Newer, Int64.lt_iff_toInt_lt, ← Int64.toInt_inj] at hab hbc ⊢
    omega
  total a b := by
    simp only [Bool.or_eq_true, lastSeenFirst_iff, Newer, Int64.lt_iff_toInt_lt, ← Int64.toInt_inj]
    omega
  antisymm a ha b hb hab hba := by
    apply t.devices.eq_of_number_eq ha hb
    simp only [lastSeenFirst_iff, Newer, Int64.lt_iff_toInt_lt, ← Int64.toInt_inj] at hab hba
    show a.id = b.id
    omega

theorem ranks_legacy (t : Tables) (name : String) :
    Ranks lastSeenFirst (t.legacy.filter (·.name = name)) :=
  ((ranks_lastSeenFirst t).filter _).filter _

section Deleted

variable {t : Tables} {row : DeviceRow}

theorem mem_legacy : row ∈ t.legacy ↔ row ∈ t.devices.rows ∧ row.hardwareId = none := by
  simp [Tables.legacy]

/-- The migration deletes the superseded rows. -/
theorem mem_duplicateIds (hrow : row ∈ t.devices.rows) :
    row.id ∈ t.duplicateIds ↔ Superseded t row := by
  have hnumber : ∀ candidate ∈ t.legacy, (1 < t.rn candidate ↔ Superseded t candidate) := by
    intro candidate hcandidate
    rw [Tables.rn, (ranks_legacy t candidate.name).one_lt_rowNumber
      (List.mem_filter.mpr ⟨hcandidate, by simp⟩)]
    simp only [List.mem_filter, decide_eq_true_eq, not_lastSeenFirst, Superseded, mem_legacy]
    grind [mem_legacy]
  simp only [Tables.duplicateIds, List.mem_map, List.mem_filter, decide_eq_true_eq]
  constructor
  · rintro ⟨candidate, ⟨hcandidate, hlater⟩, hid⟩
    have heq : candidate = row :=
      t.devices.eq_of_number_eq (mem_legacy.mp hcandidate).1 hrow hid
    rw [← heq]
    exact (hnumber candidate hcandidate).mp hlater
  · intro h
    exact ⟨row, ⟨h.1, (hnumber row h.1).mpr h⟩, rfl⟩

/-- The devices that lose their rows. -/
theorem mem_deleted {id : Uuid} :
    id ∈ (t.devices.rows.filter (·.id ∈ t.duplicateIds)).map (·.deviceId) ↔
      ∃ row ∈ t.devices.rows, Superseded t row ∧ row.deviceId = id := by
  simp only [List.mem_map, List.mem_filter, decide_eq_true_eq]
  constructor
  · rintro ⟨row, ⟨hrow, hdeleted⟩, hid⟩
    exact ⟨row, hrow, (mem_duplicateIds hrow).mp hdeleted, hid⟩
  · rintro ⟨row, hrow, hsuperseded, hid⟩
    exact ⟨row, ⟨hrow, (mem_duplicateIds hrow).mpr hsuperseded⟩, hid⟩

/-- The rows that stay. -/
theorem mem_pruned : row ∈ t.pruneDuplicates.devices.rows ↔
    row ∈ t.devices.rows ∧ ¬ Superseded t row := by
  simp only [Tables.pruneDuplicates, NumberedTable.rows_delete, List.mem_filter,
    Bool.not_eq_true', decide_eq_false_iff_not]
  exact and_congr_right fun hrow ↦ not_congr (mem_duplicateIds hrow)

/-- The migration keeps the newest row of each name. -/
theorem keepsNewest_pruneDuplicates (t : Tables) : KeepsNewest t t.pruneDuplicates where
  newest := by
    intro name hname
    obtain ⟨newest, tail, -, hmem, hfirst⟩ := (ranks_legacy t name).exists_first hname
    obtain ⟨hlegacy, hsame⟩ := List.mem_filter.mp hmem
    have hname' : newest.name = name := by simpa using hsame
    have hnewer : ∀ other ∈ t.legacy, other.name = name → other ≠ newest → Newer newest other := by
      intro other hother hothername hne
      have hbefore := hfirst other (List.mem_filter.mpr ⟨hother, by simpa using hothername⟩)
      rcases lastSeenFirst_iff.mp hbefore with h | ⟨-, hid⟩
      · exact h
      · exact absurd (t.devices.eq_of_number_eq (mem_legacy.mp hother).1 (mem_legacy.mp hlegacy).1
          hid) hne
    refine ⟨newest, hlegacy, hname', ?_, hnewer⟩
    have hnodup : (t.pruneDuplicates.legacy.filter (·.name = name)).Nodup :=
      (t.pruneDuplicates.devices.nodup_rows.filter _).filter _
    apply List.perm_singleton.mp
    apply (List.perm_ext_iff_of_nodup hnodup (List.nodup_singleton newest)).mpr
    intro other
    rw [List.mem_filter, decide_eq_true_eq, mem_legacy, mem_pruned, List.mem_singleton]
    constructor
    · rintro ⟨⟨⟨hother, hsurvives⟩, hhardware⟩, hothername⟩
      by_contra hne
      have hlater := hnewer other (mem_legacy.mpr ⟨hother, hhardware⟩) hothername hne
      exact hsurvives ⟨mem_legacy.mpr ⟨hother, hhardware⟩, newest, hlegacy,
        hname'.trans hothername.symm, hlater⟩
    · rintro rfl
      refine ⟨⟨⟨(mem_legacy.mp hlegacy).1, ?_⟩, (mem_legacy.mp hlegacy).2⟩, hname'⟩
      rintro ⟨-, rival, hrival, hrivalname, hlater⟩
      by_cases heq : rival = other
      · exact (heq ▸ hlater).asymm (heq ▸ hlater)
      · exact hlater.asymm (hnewer rival hrival (hrivalname.trans hname') heq)
  legacy := by
    intro row hrow
    rw [mem_legacy, mem_pruned] at hrow
    exact mem_legacy.mpr ⟨hrow.1.1, hrow.2⟩
  identified := by
    intro row hidentified
    rw [mem_pruned]
    exact and_iff_left fun hsuperseded ↦ hidentified (mem_legacy.mp hsuperseded.1).2

end Deleted

/-! ## What becomes of the history -/

/-- A list that loses elements has no room for all of them. -/
theorem filter_eq_self_of_subperm {ρ β : Type*} {rows : List ρ} {kept : ρ → Bool} {f : ρ → β}
    (h : (rows.map f).Subperm ((rows.filter kept).map f)) : ∀ row ∈ rows, kept row = true := by
  have hlength := h.length_le
  rw [List.length_map, List.length_map] at hlength
  exact List.length_filter_eq_length_iff.mp (Nat.le_antisymm (List.length_filter_le _ _) hlength)

section History

variable {db : Db}

/-- The child rows that stay have their parents. -/
theorem known_of_not_deleted {id : Uuid} (hknown : id ∈ db.deviceIds)
    (hkept : id ∉ (db.devices.rows.filter (·.id ∈ db.duplicateIds)).map (·.deviceId)) :
    id ∈ db.toTables.pruneDuplicates.deviceIds := by
  obtain ⟨row, hrow, hid⟩ := Tables.mem_deviceIds.mp hknown
  apply Tables.mem_deviceIds.mpr
  refine ⟨row, mem_pruned.mpr ⟨hrow, fun hsuperseded ↦ hkept ?_⟩, hid⟩
  exact mem_deleted.mpr ⟨row, hrow, hsuperseded, hid⟩

/-- The migration cannot fail. -/
theorem constraints_pruneDuplicates (db : Db) :
    db.toTables.pruneDuplicates.Unique ∧ db.toTables.pruneDuplicates.ForeignKeys := by
  refine ⟨⟨?_, ?_⟩, ?_⟩
  · exact db.unique.devices.sublist (List.filter_sublist.map _)
  · exact db.unique.pairings.sublist (List.filter_sublist.map _)
  · intro id hid
    have hbefore : id ∈ db.references ∧
        id ∉ (db.devices.rows.filter (·.id ∈ db.duplicateIds)).map (·.deviceId) := by
      simp only [Tables.references, Tables.pruneDuplicates, NumberedTable.rows_delete,
        KeyedTable.rows_delete, List.mem_append, List.mem_map, List.mem_filter, Bool.not_eq_true',
        decide_eq_false_iff_not] at hid ⊢
      grind
    exact known_of_not_deleted (db.foreignKeys id hbefore.1) hbefore.2

/-- No history is lost exactly when none belongs to a row that is deleted. -/
theorem keepsHistory_iff (db : Db) : KeepsHistory db.toTables db.toTables.pruneDuplicates ↔
    ∀ row ∈ db.devices.rows, Superseded db.toTables row → row.deviceId ∉ db.historyOwners := by
  have hdeleted (id : Uuid) : id ∈ (db.devices.rows.filter (·.id ∈ db.duplicateIds)).map
      (·.deviceId) ↔ ∃ row ∈ db.devices.rows, Superseded db.toTables row ∧ row.deviceId = id :=
    mem_deleted
  constructor
  · intro h row hrow hsuperseded howned
    have hgone := (hdeleted row.deviceId).mpr ⟨row, hrow, hsuperseded, rfl⟩
    simp only [Tables.historyOwners, List.mem_append, List.mem_map] at howned
    rcases howned with (⟨n, hn, hid⟩ | ⟨s, hs, hid⟩) | ⟨c, hc, hid⟩
    · have hkept := filter_eq_self_of_subperm h.notifications n hn
      simp [hid, hgone] at hkept
    · have hkept := filter_eq_self_of_subperm h.smsMessages s hs
      simp [hid, hgone] at hkept
    · have hkept := filter_eq_self_of_subperm h.calls c hc
      simp [hid, hgone] at hkept
  · intro h
    have hkept : ∀ id ∈ db.historyOwners,
        id ∉ (db.devices.rows.filter (·.id ∈ db.duplicateIds)).map (·.deviceId) := by
      intro id hid hgone
      obtain ⟨row, hrow, hsuperseded, rfl⟩ := (hdeleted id).mp hgone
      exact h row hrow hsuperseded hid
    have hnotifications : db.toTables.pruneDuplicates.notifications = db.notifications := by
      apply KeyedTable.delete_of_not
      intro row hrow
      simpa using hkept row.deviceId (by simp [Tables.historyOwners]; grind)
    have hmessages : db.toTables.pruneDuplicates.smsMessages = db.smsMessages := by
      apply KeyedTable.delete_of_not
      intro row hrow
      simpa using hkept row.deviceId (by simp [Tables.historyOwners]; grind)
    have hcalls : db.toTables.pruneDuplicates.calls = db.calls := by
      apply NumberedTable.delete_of_not
      intro row hrow
      simpa using hkept row.deviceId (by simp [Tables.historyOwners]; grind)
    constructor
    · rw [hnotifications]
    · rw [hmessages]
    · rw [hcalls]
    · intro id hid
      rw [Tables.historyOwners, hnotifications, hmessages, hcalls] at hid
      apply known_of_not_deleted (db.foreignKeys id ?_) (hkept id hid)
      simp only [Tables.references, List.mem_append] at hid ⊢
      tauto

end History

/-- The migration does what it is for, and no history is lost, exactly when no notification,
message or call belongs to a superseded device. -/
theorem prune_loses_no_history_iff (db : Db) :
    (∃ after, db.pruneDuplicates = .ok after ∧ KeepsNewest db.toTables after.toTables ∧
      KeepsHistory db.toTables after.toTables) ↔
      ∀ row ∈ db.devices.rows, Superseded db.toTables row → row.deviceId ∉ db.historyOwners := by
  rw [← keepsHistory_iff]
  constructor
  · rintro ⟨after, hafter, -, hhistory⟩
    rwa [Tables.commit_eq_ok.mp hafter] at hhistory
  · intro hhistory
    obtain ⟨after, hafter⟩ := Tables.commit_succeeds.mpr (constraints_pruneDuplicates db)
    refine ⟨after, hafter, ?_, ?_⟩
    · rw [Tables.commit_eq_ok.mp hafter]
      exact keepsNewest_pruneDuplicates db.toTables
    · rwa [Tables.commit_eq_ok.mp hafter]

/-! ## A phone that was wiped -/

/-- A hello of a phone that sends no hardware id. -/
def wipedPhone (deviceId : Uuid) (lastSeen : Int64) (id : Nat) : DeviceRow where
  id
  name := "Pixel"
  deviceId
  publicKey := ""
  lastSeen
  paired := false
  hardwareId := none

def wipedNotification : NotificationRow where
  id := "0|com.example.mail|1"
  deviceId := ⟨1⟩
  packageName := "com.example.mail"
  appName := none
  title := "Hello"
  content := "World"
  postedAt := 1000
  isSensitive := false
  category := none
  read := false

/-- The phone has sent a notification, was wiped, and has said hello again. -/
def wipedTwice : Db where
  toTables := { Db.empty.toTables with
    devices := (Db.empty.devices.insert (wipedPhone ⟨1⟩ 1) fun _ ↦ rfl).insert (wipedPhone ⟨2⟩ 2)
      fun _ ↦ rfl
    notifications := Db.empty.notifications.insertOrReplace wipedNotification }
  unique := by decide
  foreignKeys := by decide

/-- The notification of the wiped phone is lost. -/
theorem prune_loses_history : ¬ ∀ db : Db, ∃ after, db.pruneDuplicates = .ok after ∧
    KeepsNewest db.toTables after.toTables ∧ KeepsHistory db.toTables after.toTables := by
  intro h
  obtain ⟨after, hafter, -, hhistory⟩ := h wipedTwice
  rw [Tables.commit_eq_ok.mp hafter, keepsHistory_iff] at hhistory
  have hsuperseded : Superseded wipedTwice.toTables (wipedPhone ⟨1⟩ 1 1) :=
    ⟨by decide, wipedPhone ⟨2⟩ 2 2, by decide, rfl, .inl (by decide)⟩
  exact hhistory _ (by decide) hsuperseded (by decide)

end PhoneBridge.Storage
