import PhoneBridge.Library.Service
import PhoneBridge.MessageCenter.DeviceStore
import PhoneBridge.Storage.Records

/-!
# What other tasks leave of the notifications

A handler that works through a list of notifications does so among other tasks, whose statements
insert notifications, mark them, and add and remove devices. What these do does not depend on whether
notifications have been marked as read, and whether one ends as read is decided by the last of them
that speaks about it.
-/

namespace PhoneBridge.MessageCenter

open Library Storage

/-! ## Statements of other tasks -/

/-- What another task executes: a function of the pool, or what `upsert_device` executes when its
`SELECT` has been executed earlier. -/
inductive Executed
  | pool (s : Statement)
  | refreshDevice (id : Nat) (d : DeviceRow)
  | insertOrUpdateDevice (d : DeviceRow)

/-- A statement that violates a constraint changes nothing. -/
def Executed.run (db : Db) : Executed → Db
  | pool s => Service.after (fun (db : Db) (s : Statement) ↦ s.run db) db s
  | refreshDevice id d => warned db (db.refreshDevice id d).commit
  | insertOrUpdateDevice d => warned db (db.insertOrUpdateDevice d).commit

section After

variable (db : Db)

theorem after_eq_warned (s : Statement) :
    Service.after (fun (db : Db) (s : Statement) ↦ s.run db) db s =
      warned db ((s.run db).map Prod.snd) := by
  rw [Service.after]
  cases s.run db <;> rfl

theorem warned_answer {α : Type} (result : Except DbError Db) (answer : α) :
    warned db (((answer, ·) <$> result).map Prod.snd) = warned db result := by
  cases result <;> rfl

theorem after_of_write {s : Statement} {answer : Option String} {result : Except DbError Db}
    (hrun : s.run db = (answer, ·) <$> result) :
    Service.after (fun (db : Db) (s : Statement) ↦ s.run db) db s = warned db result := by
  rw [after_eq_warned, hrun, warned_answer]

theorem after_insertSms (row : SmsRow) :
    Service.after (fun (db : Db) (s : Statement) ↦ s.run db) db (.insertSms row) =
      warned db (db.insertSms row) :=
  after_of_write db rfl

theorem after_insertCall (row : CallRow) :
    Service.after (fun (db : Db) (s : Statement) ↦ s.run db) db (.insertCall row) =
      CenterSink.insertCall row db := by
  rw [after_eq_warned, Statement.run, CenterSink.insertCall]
  cases db.insertCall row <;> rfl

theorem after_markNotificationRead (deviceId : Uuid) (id : String) :
    Service.after (fun (db : Db) (s : Statement) ↦ s.run db) db
        (.markNotificationRead deviceId id) = warned db (db.markNotificationRead deviceId id) :=
  after_of_write db rfl

theorem after_dismissNotification (deviceId : Uuid) (id : String) :
    Service.after (fun (db : Db) (s : Statement) ↦ s.run db) db
        (.dismissNotification deviceId id) = warned db (db.markNotificationRead deviceId id) := by
  rw [after_eq_warned, Statement.run, Db.dismissNotification]
  cases db.markNotificationRead deviceId id <;> rfl

end After

/-! ## Unread notifications -/

/-- A notification is stored under its id and its device. -/
abbrev NotificationKey := String × Uuid

/-- There is an unread notification under this key. -/
def Unread (k : NotificationKey) (db : Db) : Prop :=
  ∃ row ∈ db.notifications.rows, (row.id, row.deviceId) = k ∧ row.read = false

/-- What a statement says about a notification: that it is unread, or that it is read. -/
def Executed.word (k : NotificationKey) : Executed → Option Bool
  | pool (.insertNotification n) => if (n.id, n.deviceId) = k then some !n.read else none
  | pool (.markNotificationRead deviceId id) => if (id, deviceId) = k then some false else none
  | pool (.dismissNotification deviceId id) => if (id, deviceId) = k then some false else none
  | _ => none

/-- Where the device is unknown after a statement, there is no notification of it. -/
def wordAfter (k : NotificationKey) (after : Db) (said : Option Bool) : Option Bool :=
  if k.2 ∈ after.deviceIds then said else some false

/-- What is said last. -/
def lastWord (k : NotificationKey) : Db → List Executed → Option Bool
  | _, [] => none
  | db, e :: rest => (lastWord k (e.run db) rest).or (wordAfter k (e.run db) (e.word k))

/-- A word decides; where nothing is said, a notification stays as it was. -/
def Decides (k : NotificationKey) (db after : Db) (word : Option Bool) : Prop :=
  Unread k after ↔ word.elim (Unread k db) (· = true)

/-- A later word goes over an earlier one. -/
theorem Decides.trans {k : NotificationKey} {db middle after : Db} {word later : Option Bool}
    (h : Decides k db middle word) (hlater : Decides k middle after later) :
    Decides k db after (later.or word) := by
  cases later with
  | none => exact Iff.trans hlater h
  | some unread => exact hlater

theorem rows_markNotificationRead (db : Db) (deviceId : Uuid) (id : String) :
    (warned db (db.markNotificationRead deviceId id)).notifications.rows =
      db.notifications.rows.map fun row ↦
        if decide (row.deviceId = deviceId ∧ row.id = id) = true then { row with read := true }
        else row := by
  rw [Db.markNotificationRead, warned_commit (constraints_markNotificationRead db deviceId id)]
  rfl

/-- Marking a notification makes it read, and changes no other one. -/
theorem unread_marked (db : Db) (deviceId : Uuid) (id : String) (k : NotificationKey) :
    Unread k (warned db (db.markNotificationRead deviceId id)) ↔ Unread k db ∧ (id, deviceId) ≠ k := by
  rw [Unread, rows_markNotificationRead]
  simp only [List.mem_map, Unread, decide_eq_true_eq]
  constructor
  · rintro ⟨-, ⟨row, hrow, rfl⟩, hkey, hread⟩
    by_cases hmarked : row.deviceId = deviceId ∧ row.id = id
    · rw [if_pos hmarked] at hread
      cases hread
    · rw [if_neg hmarked] at hkey hread
      refine ⟨⟨row, hrow, hkey, hread⟩, ?_⟩
      rintro rfl
      exact hmarked ⟨(Prod.mk.inj hkey).2, (Prod.mk.inj hkey).1⟩
  · rintro ⟨⟨row, hrow, rfl, hread⟩, hother⟩
    refine ⟨row, ⟨row, hrow, if_neg ?_⟩, rfl, hread⟩
    rintro ⟨rfl, rfl⟩
    exact hother rfl

/-- A stored notification has a known device. -/
theorem known_of_mem {db : Db} {row : NotificationRow} (h : row ∈ db.notifications.rows) :
    row.deviceId ∈ db.deviceIds := by
  refine db.foreignKeys _ ?_
  simp only [Tables.references, List.mem_append, List.mem_map]
  exact .inl (.inl (.inr ⟨row, h, rfl⟩))

theorem known_of_unread {k : NotificationKey} {db : Db} (h : Unread k db) : k.2 ∈ db.deviceIds := by
  obtain ⟨row, hrow, rfl, -⟩ := h
  exact known_of_mem hrow

/-- A statement that leaves the notifications of known devices alone. -/
theorem decides_of_kept {db after : Db} (k : NotificationKey)
    (hrows : ∀ row, row ∈ after.notifications.rows ↔
      row ∈ db.notifications.rows ∧ row.deviceId ∈ after.deviceIds) :
    Decides k db after (wordAfter k after none) := by
  have hunread : Unread k after ↔ k.2 ∈ after.deviceIds ∧ Unread k db := by
    simp only [Unread, hrows]
    constructor
    · rintro ⟨row, ⟨hrow, hknown⟩, rfl, hread⟩
      exact ⟨hknown, row, hrow, rfl, hread⟩
    · rintro ⟨hknown, row, hrow, rfl, hread⟩
      exact ⟨row, ⟨hrow, hknown⟩, rfl, hread⟩
  rw [Decides, wordAfter, hunread]
  split <;> simp_all

theorem kept_of_same {db : Db} {t : Tables} (hsame : t.notifications = db.notifications)
    (row : NotificationRow) : row ∈ (warned db t.commit).notifications.rows ↔
      row ∈ db.notifications.rows ∧ row.deviceId ∈ (warned db t.commit).deviceIds := by
  have hafter : (warned db t.commit).notifications = db.notifications :=
    warned_of_both (fun t ↦ t.notifications = db.notifications) rfl hsame
  rw [← hafter]
  exact (and_iff_left_of_imp known_of_mem).symm

/-- A removed device takes its notifications along. -/
theorem kept_of_removed (db : Db) (deviceId : Uuid) (row : NotificationRow) :
    row ∈ (warned db (db.removeDevice deviceId)).notifications.rows ↔
      row ∈ db.notifications.rows ∧
        row.deviceId ∈ (warned db (db.removeDevice deviceId)).deviceIds := by
  by_cases hconstraints : (db.deleteDevice deviceId).Unique ∧ (db.deleteDevice deviceId).ForeignKeys
  · rw [Db.removeDevice, warned_commit hconstraints]
    have hids : row.deviceId ∈ (db.deleteDevice deviceId).deviceIds ↔
        row.deviceId ∈ db.deviceIds ∧ row.deviceId ≠ deviceId := by
      simp only [Tables.deviceIds, Tables.deleteDevice, NumberedTable.rows_delete, List.mem_map,
        List.mem_filter]
      grind
    rw [hids, Tables.deleteDevice, KeyedTable.rows_delete, List.mem_filter]
    simp only [Bool.not_eq_eq_eq_not, Bool.not_true, decide_eq_false_iff_not]
    exact ⟨fun h ↦ ⟨h.1, known_of_mem h.1, h.2⟩, fun h ↦ ⟨h.1, h.2.2⟩⟩
  · rw [Db.removeDevice, warned_commit_of_not hconstraints]
    exact (and_iff_left_of_imp known_of_mem).symm

/-- A statement that neither posts nor marks. -/
theorem decides_of_silent {db : Db} {t : Tables} (k : NotificationKey)
    (hsame : t.notifications = db.notifications) :
    Decides k db (warned db t.commit) (wordAfter k (warned db t.commit) none) :=
  decides_of_kept k (kept_of_same hsame)

/-- Marking is a word that the notification is read. -/
theorem decides_marked (db : Db) (deviceId : Uuid) (id : String) (k : NotificationKey) :
    Decides k db (warned db (db.markNotificationRead deviceId id))
      (wordAfter k (warned db (db.markNotificationRead deviceId id))
        (if (id, deviceId) = k then some false else none)) := by
  have hknown : Unread k db → k.2 ∈ (warned db (db.markNotificationRead deviceId id)).deviceIds := by
    intro h
    rw [Db.markNotificationRead, warned_commit (constraints_markNotificationRead db deviceId id)]
    exact known_of_unread h
  rw [Decides, wordAfter, unread_marked]
  split_ifs with hdevice hkey <;> simp_all

/-- A posted notification of a known device is as it is posted. -/
theorem unread_inserted_own {db : Db} {n : NotificationRow} (hknown : n.deviceId ∈ db.deviceIds) :
    Unread (n.id, n.deviceId) (warned db (db.insertNotification n)) ↔ n.read = false := by
  rw [Unread, toTables_insertNotification]
  simp only [hknown, if_true, KeyedTable.rows_insertOrReplace, List.mem_append, List.mem_filter,
    List.mem_singleton, decide_eq_true_eq]
  constructor
  · rintro ⟨row, ⟨-, hother⟩ | rfl, hsame, hread⟩
    · exact absurd hsame hother
    · exact hread
  · exact fun hread ↦ ⟨n, .inr rfl, rfl, hread⟩

/-- Another notification stays as it is. -/
theorem unread_inserted_other {db : Db} {n : NotificationRow} {k : NotificationKey}
    (hkey : (n.id, n.deviceId) ≠ k) :
    Unread k (warned db (db.insertNotification n)) ↔ Unread k db := by
  rw [Unread, toTables_insertNotification]
  split
  · simp only [KeyedTable.rows_insertOrReplace, List.mem_append, List.mem_filter,
      List.mem_singleton, decide_eq_true_eq]
    constructor
    · rintro ⟨row, ⟨hrow, -⟩ | rfl, hsame, hread⟩
      · exact ⟨row, hrow, hsame, hread⟩
      · exact absurd hsame hkey
    · rintro ⟨row, hrow, hsame, hread⟩
      exact ⟨row, .inl ⟨hrow, fun heq ↦ hkey (heq.symm.trans hsame)⟩, hsame, hread⟩
  · exact Iff.rfl

/-- Posting a notification of a known device makes it what it is posted as. -/
theorem decides_inserted (db : Db) (n : NotificationRow) (k : NotificationKey) :
    Decides k db (warned db (db.insertNotification n))
      (wordAfter k (warned db (db.insertNotification n))
        (if (n.id, n.deviceId) = k then some !n.read else none)) := by
  have hids : (warned db (db.insertNotification n)).deviceIds = db.deviceIds := by
    rw [toTables_insertNotification]
    split <;> rfl
  rw [Decides, wordAfter, hids]
  by_cases hkey : (n.id, n.deviceId) = k
  · subst hkey
    by_cases hknown : n.deviceId ∈ db.deviceIds
    · simp [unread_inserted_own hknown, hknown]
    · have hnone : ¬ Unread (n.id, n.deviceId) (warned db (db.insertNotification n)) :=
        fun h ↦ hknown (hids ▸ known_of_unread h)
      simp [hknown, hnone]
  · rw [unread_inserted_other hkey, if_neg hkey]
    split_ifs with hdevice
    · exact Iff.rfl
    · have hnone : ¬ Unread k db := fun h ↦ hdevice (known_of_unread h)
      simp [hnone]

/-- A statement leaves of a notification what its write leaves of it. -/
theorem decides_of_write {db : Db} {s : Statement} {answer : Option String}
    {result : Except DbError Db} {k : NotificationKey} {said : Option Bool}
    (hrun : s.run db = (answer, ·) <$> result)
    (h : Decides k db (warned db result) (wordAfter k (warned db result) said)) :
    Decides k db (Service.after (fun (db : Db) (s : Statement) ↦ s.run db) db s)
      (wordAfter k (Service.after (fun (db : Db) (s : Statement) ↦ s.run db) db s) said) := by
  rw [after_of_write db hrun]
  exact h

/-- What a statement leaves of a notification. -/
theorem decides_run (db : Db) (e : Executed) (k : NotificationKey) :
    Decides k db (e.run db) (wordAfter k (e.run db) (e.word k)) := by
  have hinsertOrUpdate : ∀ d, (db.insertOrUpdateDevice d).notifications = db.notifications := by
    intro d
    unfold Tables.insertOrUpdateDevice
    split <;> rfl
  cases e with
  | refreshDevice id d => exact decides_of_silent k rfl
  | insertOrUpdateDevice d => exact decides_of_silent k (hinsertOrUpdate d)
  | pool s =>
    rw [Executed.run]
    cases s with
    | upsertDevice d =>
      refine decides_of_write rfl ?_
      rw [Db.upsertDevice]
      split
      · exact decides_of_silent k rfl
      · exact decides_of_silent k (hinsertOrUpdate d)
    | removeDevice deviceId =>
      exact decides_of_write rfl (decides_of_kept k (kept_of_removed db deviceId))
    | touchDevice _ _ | markDevicePaired _ | insertAuditLog _ _ _ _ | insertSms _ =>
      exact decides_of_write rfl (decides_of_silent k rfl)
    | insertPairing deviceId certPem certFingerprint pairedAt =>
      refine decides_of_write rfl ?_
      rw [Db.insertPairing]
      split <;> exact decides_of_silent k rfl
    | insertNotification n =>
      exact decides_of_write rfl (decides_inserted db n k)
    | markNotificationRead deviceId id =>
      rw [after_markNotificationRead]
      exact decides_marked db deviceId id k
    | dismissNotification deviceId id =>
      rw [after_dismissNotification]
      exact decides_marked db deviceId id k
    | insertCall row =>
      rw [after_insertCall, insertCall_eq]
      exact decides_of_silent k rfl

/-- The last word decides. -/
theorem decides_foldl (db : Db) (es : List Executed) (k : NotificationKey) :
    Decides k db (es.foldl Executed.run db) (lastWord k db es) := by
  induction es generalizing db with
  | nil => exact Iff.rfl
  | cons e es ih =>
    rw [List.foldl_cons, lastWord]
    exact (decides_run db e k).trans (ih (e.run db))

theorem lastWord_append (k : NotificationKey) (db : Db) (front back : List Executed) :
    lastWord k db (front ++ back) =
      (lastWord k (front.foldl Executed.run db) back).or (lastWord k db front) := by
  induction front generalizing db with
  | nil => simp [lastWord]
  | cons e front ih => simp only [List.cons_append, lastWord, ih, List.foldl_cons, Option.or_assoc]

/-! ## Databases that differ in what has been marked -/

/-- Is the notification one of the device, or is there no filter? -/
def inScope (deviceId : Option Uuid) (row : NotificationRow) : Bool :=
  deviceId.all (row.deviceId = ·)

def unmarked (row : NotificationRow) : NotificationRow := { row with read := false }

/-- The tables differ in which notifications in scope have been marked as read, and in nothing
else. -/
structure AlikeBut (deviceId : Option Uuid) (t t' : Tables) : Prop where
  devices : t'.devices = t.devices
  pairings : t'.pairings = t.pairings
  sessions : t'.sessions = t.sessions
  smsMessages : t'.smsMessages = t.smsMessages
  calls : t'.calls = t.calls
  auditLog : t'.auditLog = t.auditLog
  notifications : t'.notifications.rows.map unmarked = t.notifications.rows.map unmarked
  others : t'.notifications.rows.filter (!inScope deviceId ·) =
    t.notifications.rows.filter (!inScope deviceId ·)

namespace AlikeBut

variable {scope : Option Uuid} {t t' : Tables} {db db' : Db}

theorem refl (scope : Option Uuid) (t : Tables) : AlikeBut scope t t :=
  ⟨rfl, rfl, rfl, rfl, rfl, rfl, rfl, rfl⟩

theorem deviceIds (h : AlikeBut scope t t') : t'.deviceIds = t.deviceIds := by
  rw [Tables.deviceIds, h.devices]
  rfl

theorem references (h : AlikeBut scope t t') : t'.references = t.references := by
  have hids : ∀ rows : List NotificationRow,
      rows.map (·.deviceId) = (rows.map unmarked).map (·.deviceId) := fun rows ↦ by
    rw [List.map_map]
    rfl
  rw [Tables.references, Tables.references, h.pairings, h.sessions, h.smsMessages, h.calls, hids,
    hids t.notifications.rows, h.notifications]

/-- Rows that differ in their marks are selected alike by their keys. -/
theorem map_filter_unmarked {rows rows' : List NotificationRow} {cond : NotificationRow → Bool}
    (hcond : ∀ row, cond (unmarked row) = cond row)
    (h : rows'.map unmarked = rows.map unmarked) :
    (rows'.filter cond).map unmarked = (rows.filter cond).map unmarked := by
  have hselect : ∀ rows : List NotificationRow,
      (rows.filter cond).map unmarked = (rows.map unmarked).filter cond := fun rows ↦ by
    rw [List.filter_map]
    exact congrArg _ (List.filter_congr fun row _ ↦ (hcond row).symm)
  rw [hselect, hselect, h]

theorem filter_filter_of_eq {rows rows' : List NotificationRow} {cond other : NotificationRow → Bool}
    (h : rows'.filter other = rows.filter other) :
    (rows'.filter cond).filter other = (rows.filter cond).filter other := by
  rw [List.filter_comm, h, List.filter_comm]

/-- A statement is refused on the one database when it is on the other one. -/
theorem warned (h : AlikeBut scope db.toTables db'.toTables) (ht : AlikeBut scope t t') :
    AlikeBut scope (warned db t.commit).toTables (MessageCenter.warned db' t'.commit).toTables := by
  have hsame : (t'.Unique ∧ t'.ForeignKeys) ↔ (t.Unique ∧ t.ForeignKeys) := by
    have hunique : t'.Unique ↔ t.Unique := by
      constructor
      · exact fun h' ↦ ⟨ht.deviceIds ▸ h'.devices, ht.pairings ▸ h'.pairings⟩
      · exact fun h' ↦ ⟨ht.deviceIds.symm ▸ h'.devices, ht.pairings.symm ▸ h'.pairings⟩
    rw [hunique, Tables.ForeignKeys, Tables.ForeignKeys, ht.references, ht.deviceIds]
  by_cases hconstraints : t.Unique ∧ t.ForeignKeys
  · rwa [warned_commit hconstraints, warned_commit (hsame.mpr hconstraints)]
  · rwa [warned_commit_of_not hconstraints, warned_commit_of_not (hsame.not.mpr hconstraints)]

theorem refreshDevice (h : AlikeBut scope t t') (id : Nat) (d : DeviceRow) :
    AlikeBut scope (t.refreshDevice id d) (t'.refreshDevice id d) :=
  { h with devices := by simp only [Tables.refreshDevice, h.devices] }

theorem insertOrUpdateDevice (h : AlikeBut scope t t') (d : DeviceRow) :
    AlikeBut scope (t.insertOrUpdateDevice d) (t'.insertOrUpdateDevice d) := by
  unfold Tables.insertOrUpdateDevice
  rw [h.deviceIds]
  split
  · exact { h with devices := by simp only [h.devices] }
  · exact { h with devices := by simp only [h.devices] }

theorem upsertDevice (h : AlikeBut scope db.toTables db'.toTables) (d : DeviceRow) :
    AlikeBut scope (MessageCenter.warned db (db.upsertDevice d)).toTables
      (MessageCenter.warned db' (db'.upsertDevice d)).toTables := by
  have hfound : db'.findHardware d = db.findHardware d := by
    rw [Db.findHardware, Db.findHardware, h.devices]
  rw [Db.upsertDevice, Db.upsertDevice, hfound]
  split
  · exact h.warned (h.refreshDevice _ d)
  · exact h.warned (h.insertOrUpdateDevice d)

theorem insertPairing (h : AlikeBut scope db.toTables db'.toTables) (deviceId : Uuid)
    (certPem certFingerprint : String) (pairedAt : Int64) :
    AlikeBut scope
      (MessageCenter.warned db (db.insertPairing deviceId certPem certFingerprint pairedAt)).toTables
      (MessageCenter.warned db'
        (db'.insertPairing deviceId certPem certFingerprint pairedAt)).toTables := by
  rw [Db.insertPairing, Db.insertPairing, h.pairings]
  split
  · exact h.warned { h with pairings := rfl }
  · exact h.warned { h with pairings := rfl }

/-- Deleting by the device does not depend on what has been marked. -/
theorem deleteDevice (h : AlikeBut scope t t') (deviceId : Uuid) :
    AlikeBut scope (t.deleteDevice deviceId) (t'.deleteDevice deviceId) where
  devices := by simp only [Tables.deleteDevice, h.devices]
  pairings := by simp only [Tables.deleteDevice, h.pairings]
  sessions := by simp only [Tables.deleteDevice, h.sessions]
  smsMessages := by simp only [Tables.deleteDevice, h.smsMessages]
  calls := by simp only [Tables.deleteDevice, h.calls]
  auditLog := h.auditLog
  notifications := map_filter_unmarked (fun _ ↦ rfl) h.notifications
  others := filter_filter_of_eq h.others

/-- A notification takes the place of the old one, marked or not. -/
theorem insertOrReplace (h : AlikeBut scope t t') (n : NotificationRow) :
    AlikeBut scope { t with notifications := t.notifications.insertOrReplace n }
      { t' with notifications := t'.notifications.insertOrReplace n } :=
  { h with
    notifications := by
      rw [KeyedTable.rows_insertOrReplace, KeyedTable.rows_insertOrReplace, List.map_append,
        List.map_append, map_filter_unmarked (fun _ ↦ rfl) h.notifications]
    others := by
      rw [KeyedTable.rows_insertOrReplace, KeyedTable.rows_insertOrReplace, List.filter_append,
        List.filter_append, filter_filter_of_eq h.others] }

/-- Marking leaves everything but the mark. -/
theorem map_unmarked_markNotificationRead (db : Db) (deviceId : Uuid) (id : String) :
    (MessageCenter.warned db (db.markNotificationRead deviceId id)).notifications.rows.map unmarked =
      db.notifications.rows.map unmarked := by
  rw [rows_markNotificationRead, List.map_map]
  refine List.map_congr_left fun row _ ↦ ?_
  change unmarked (if _ then _ else _) = _
  split <;> rfl

theorem tables_markNotificationRead (db : Db) (deviceId : Uuid) (id : String) :
    ∃ notifications, (MessageCenter.warned db (db.markNotificationRead deviceId id)).toTables =
      { db.toTables with notifications } :=
  ⟨_, by rw [Db.markNotificationRead, warned_commit (constraints_markNotificationRead db deviceId id)]⟩

/-- Both databases mark a notification. -/
theorem markNotificationRead (h : AlikeBut scope db.toTables db'.toTables) (deviceId : Uuid)
    (id : String) :
    AlikeBut scope (MessageCenter.warned db (db.markNotificationRead deviceId id)).toTables
      (MessageCenter.warned db' (db'.markNotificationRead deviceId id)).toTables := by
  have hrows : ∀ db : Db, (MessageCenter.warned db
      (db.markNotificationRead deviceId id)).notifications.rows.filter (!inScope scope ·) =
        (db.notifications.rows.filter (!inScope scope ·)).map fun row ↦
          if decide (row.deviceId = deviceId ∧ row.id = id) = true then { row with read := true }
          else row := by
    intro db
    rw [rows_markNotificationRead, List.filter_map]
    refine congrArg _ (List.filter_congr fun row _ ↦ ?_)
    change (!inScope scope (if _ then _ else _)) = _
    split <;> rfl
  obtain ⟨notifications, hmarked⟩ := tables_markNotificationRead db deviceId id
  obtain ⟨notifications', hmarked'⟩ := tables_markNotificationRead db' deviceId id
  exact {
    devices := by rw [hmarked, hmarked', h.devices]
    pairings := by rw [hmarked, hmarked', h.pairings]
    sessions := by rw [hmarked, hmarked', h.sessions]
    smsMessages := by rw [hmarked, hmarked', h.smsMessages]
    calls := by rw [hmarked, hmarked', h.calls]
    auditLog := by rw [hmarked, hmarked', h.auditLog]
    notifications := by
      rw [map_unmarked_markNotificationRead, map_unmarked_markNotificationRead, h.notifications]
    others := by rw [hrows, hrows, h.others] }

/-- Only one of them marks a notification, and this is in scope. -/
theorem marked (h : AlikeBut scope db.toTables db'.toTables) {deviceId : Uuid} (id : String)
    (hscope : scope.all (deviceId = ·) = true) :
    AlikeBut scope db.toTables
      (MessageCenter.warned db' (db'.markNotificationRead deviceId id)).toTables := by
  obtain ⟨notifications', hmarked'⟩ := tables_markNotificationRead db' deviceId id
  exact {
    devices := by rw [hmarked', h.devices]
    pairings := by rw [hmarked', h.pairings]
    sessions := by rw [hmarked', h.sessions]
    smsMessages := by rw [hmarked', h.smsMessages]
    calls := by rw [hmarked', h.calls]
    auditLog := by rw [hmarked', h.auditLog]
    notifications := by rw [map_unmarked_markNotificationRead, h.notifications]
    others := by
      rw [rows_markNotificationRead, ← h.others]
      refine filter_map_ite_of_not ?_
      rintro row - hmarked
      obtain ⟨hdevice, -⟩ : row.deviceId = deviceId ∧ row.id = id := by simpa using hmarked
      have hrow : inScope scope row = true := by rw [inScope, hdevice]; exact hscope
      exact ⟨by simp [hrow], by simpa [inScope] using hrow⟩ }

/-- A statement that writes alike on both databases leaves them alike. -/
theorem after {s : Statement} {answer : Option String}
    {write : Db → Except DbError Db}
    (hrun : ∀ db : Db, s.run db = (answer, ·) <$> write db)
    (h : AlikeBut scope (MessageCenter.warned db (write db)).toTables
      (MessageCenter.warned db' (write db')).toTables) :
    AlikeBut scope (Service.after (fun (db : Db) (s : Statement) ↦ s.run db) db s).toTables
      (Service.after (fun (db : Db) (s : Statement) ↦ s.run db) db' s).toTables := by
  rw [after_of_write db (hrun db), after_of_write db' (hrun db')]
  exact h

/-- A statement of another task does the same to both databases. -/
theorem run (h : AlikeBut scope db.toTables db'.toTables) (e : Executed) :
    AlikeBut scope (e.run db).toTables (e.run db').toTables := by
  cases e with
  | refreshDevice id d => exact h.warned (h.refreshDevice id d)
  | insertOrUpdateDevice d => exact h.warned (h.insertOrUpdateDevice d)
  | pool s =>
    rw [Executed.run, Executed.run]
    cases s with
    | markNotificationRead deviceId id =>
      rw [after_markNotificationRead, after_markNotificationRead]
      exact h.markNotificationRead deviceId id
    | dismissNotification deviceId id =>
      rw [after_dismissNotification, after_dismissNotification]
      exact h.markNotificationRead deviceId id
    | insertCall row =>
      rw [after_insertCall, after_insertCall, insertCall_eq, insertCall_eq]
      exact h.warned { h with calls := by simp only [h.calls] }
    | upsertDevice d =>
      exact after (fun _ ↦ rfl) (h.upsertDevice d)
    | removeDevice deviceId =>
      exact after (fun _ ↦ rfl) (h.warned (h.deleteDevice deviceId))
    | touchDevice deviceId lastSeen =>
      exact after (fun _ ↦ rfl) (h.warned { h with devices := by simp only [h.devices] })
    | markDevicePaired deviceId =>
      exact after (fun _ ↦ rfl) (h.warned { h with devices := by simp only [h.devices] })
    | insertPairing deviceId certPem certFingerprint pairedAt =>
      exact after (fun _ ↦ rfl) (h.insertPairing deviceId certPem certFingerprint pairedAt)
    | insertNotification n =>
      exact after (fun _ ↦ rfl) (h.warned (h.insertOrReplace n))
    | insertSms row =>
      exact after (fun _ ↦ rfl) (h.warned { h with smsMessages := by simp only [h.smsMessages] })
    | insertAuditLog timestamp deviceId event detail =>
      exact after (fun _ ↦ rfl) (h.warned { h with auditLog := by simp only [h.auditLog] })

theorem foldl (h : AlikeBut scope db.toTables db'.toTables) (es : List Executed) :
    AlikeBut scope (es.foldl Executed.run db).toTables (es.foldl Executed.run db').toTables := by
  induction es generalizing db db' with
  | nil => exact h
  | cons e es ih => exact ih (h.run e)

/-- What has been marked changes no word. -/
theorem lastWord (h : AlikeBut scope db.toTables db'.toTables) (k : NotificationKey)
    (es : List Executed) : lastWord k db' es = MessageCenter.lastWord k db es := by
  induction es generalizing db db' with
  | nil => rfl
  | cons e es ih =>
    have hafter := h.run e
    rw [MessageCenter.lastWord, MessageCenter.lastWord, ih hafter, wordAfter, wordAfter,
      hafter.deviceIds]

end AlikeBut

end PhoneBridge.MessageCenter
