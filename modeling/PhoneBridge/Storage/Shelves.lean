import PhoneBridge.Library.LastOf
import PhoneBridge.Storage.Refinement

/-!
# The last word about a row

Notifications and messages lie on shelves of the records, by their own ids. A statement puts a row
on the shelf, or marks it, or removes the device with all of its shelves; what lies there after any
sequence of statements is given by the last one that put it there or removed it.
-/

namespace PhoneBridge.Storage

open Library

/-! ## What a statement does to one record -/

namespace Statement

/-- The device whose record a statement changes, and how. -/
def change : Statement → Option (Uuid × (DeviceRecord → DeviceRecord))
  | .touchDevice deviceId lastSeen =>
    some (deviceId, fun record ↦ { record with device := { record.device with lastSeen } })
  | .insertPairing deviceId certPem certFingerprint pairedAt =>
    some (deviceId, fun record ↦
      { record with pairing := some { certPem, certFingerprint, pairedAt } })
  | .markDevicePaired deviceId =>
    some (deviceId, fun record ↦ { record with device := { record.device with paired := true } })
  | .insertNotification n =>
    some (n.deviceId, fun record ↦
      { record with notifications := record.notifications.insert n.id n })
  | .markNotificationRead deviceId notificationId => some (deviceId, markRead notificationId)
  | .dismissNotification deviceId notificationId => some (deviceId, markRead notificationId)
  | .insertSms s =>
    some (s.deviceId, fun record ↦ { record with smsMessages := record.smsMessages.insert s.id s })
  | .insertCall c =>
    some (c.deviceId, fun record ↦ { record with calls := record.calls ++ [{ c with id := 0 }] })
  | .upsertDevice _ | .removeDevice _ | .insertAuditLog .. => none

/-- The statement fails unless the device is known. -/
def gives : Statement → Bool
  | .insertPairing .. | .insertNotification _ | .insertSms _ | .insertCall _ => true
  | _ => false

def removes (deviceId : Uuid) : Statement → Bool
  | .removeDevice removed => removed = deviceId
  | _ => false

variable {r next : Records} {s : Statement} {answer : Option String}

theorem give_eq_ok {deviceId : Uuid} {f : DeviceRecord → DeviceRecord}
    (h : r.give deviceId f = .ok next) :
    next = r.change deviceId f ∧ r.devices.contains deviceId = true := by
  rw [Records.give] at h
  split_ifs at h with hknown
  exact ⟨(Except.ok.inj h).symm, hknown⟩

/-- What a statement does that does not fail. -/
theorem apply_cases (h : s.apply r = .ok (answer, next)) :
    (∃ d, s = .upsertDevice d ∧ r.upsertDevice d.deviceId d.device = .ok next) ∨
    (∃ removed, s = .removeDevice removed ∧ next.devices = r.devices.remove removed) ∨
    (∃ timestamp logged event detail, s = .insertAuditLog timestamp logged event detail ∧
      next.devices = r.devices) ∨
    ∃ changed f, s.change = some (changed, f) ∧ next = r.change changed f ∧
      (s.gives = true → r.devices.contains changed = true) := by
  cases s with
  | upsertDevice d =>
    obtain ⟨upserted, hupserted, heq⟩ := map_eq_ok.mp h
    cases heq
    exact .inl ⟨d, rfl, hupserted⟩
  | removeDevice removed =>
    cases h
    exact .inr (.inl ⟨removed, rfl, rfl⟩)
  | insertAuditLog timestamp logged event detail =>
    cases h
    exact .inr (.inr (.inl ⟨timestamp, logged, event, detail, rfl, rfl⟩))
  | insertPairing _ _ _ _ | insertNotification _ | insertSms _ | insertCall _ =>
    obtain ⟨given, hgiven, heq⟩ := map_eq_ok.mp h
    cases heq
    obtain ⟨rfl, hknown⟩ := give_eq_ok hgiven
    exact .inr (.inr (.inr ⟨_, _, rfl, rfl, fun _ ↦ hknown⟩))
  | touchDevice _ _ | markDevicePaired _ | markNotificationRead _ _ | dismissNotification _ _ =>
    cases h
    exact .inr (.inr (.inr ⟨_, _, rfl, rfl, fun h ↦ by cases h⟩))

end Statement

/-! ## Parts of a record -/

namespace Records

variable {β : Type} {r next : Records} {get : DeviceRecord → β} {bare : β} {deviceId : Uuid}

/-- A part of the record of a device, or `bare`. -/
def part (r : Records) (get : DeviceRecord → β) (bare : β) (deviceId : Uuid) : β :=
  ((r.devices.get deviceId).map get).getD bare

theorem part_of_unknown (h : ¬ r.devices.contains deviceId = true) :
    r.part get bare deviceId = bare := by
  rw [KeyMap.contains_eq, Bool.not_eq_true, Option.isSome_eq_false_iff,
    Option.isNone_iff_eq_none] at h
  rw [part, h]
  rfl

theorem part_change (changed : Uuid) (f : DeviceRecord → DeviceRecord) :
    (r.change changed f).part get bare deviceId =
      if deviceId = changed then r.part (get ∘ f) bare deviceId
      else r.part get bare deviceId := by
  rw [part, change, KeyMap.get_set]
  split_ifs with hchanged
  · rw [hchanged, Option.map_map]
    rfl
  · rfl

/-- A device that comes in leaves the parts that it does not bring. -/
theorem part_upsertDevice (hbare : ∀ d, get { device := d } = bare)
    (hdevice : ∀ record d, get { record with device := d } = get record) {upserted : Uuid}
    {d : Device} (h : r.upsertDevice upserted d = .ok next) :
    next.part get bare deviceId = r.part get bare deviceId := by
  have hchange : ∀ f : DeviceRecord → Device,
      (r.change upserted fun record ↦ { record with device := f record }).part get bare deviceId =
        r.part get bare deviceId := by
    intro f
    have hget : (get ∘ fun record ↦ { record with device := f record }) = get :=
      funext fun record ↦ hdevice record _
    rw [part_change, hget]
    exact ite_self _
  have hinsert : ∀ (devices : KeyMap Uuid DeviceRecord) (log : List AuditLogRow),
      part { devices := devices.insert upserted { device := d }, auditLog := log } get bare
        deviceId = if deviceId = upserted then bare
          else ((devices.get deviceId).map get).getD bare := by
    intro devices log
    rw [part, KeyMap.get_insert]
    split_ifs
    · exact hbare d
    · rfl
  rw [upsertDevice] at h
  split at h
  · next old hold =>
    split_ifs at h with hsame hknown hnotBare
    · cases h
      exact hchange fun _ ↦ d
    · cases h
      rw [hinsert, KeyMap.get_remove]
      split_ifs with hupserted hremoved
      · rw [hupserted, part_of_unknown hknown]
      · rw [hremoved, part]
        cases hrecord : r.devices.get old with
        | none => rfl
        | some record =>
          have hrecordBare : record = { device := record.device } :=
            of_not_not fun hnot ↦ hnotBare ⟨record, hrecord, hnot⟩
          rw [Option.map_some, Option.getD_some, hrecordBare, hbare]
          rfl
      · rfl
  · split_ifs at h with hknown
    · cases h
      exact hchange fun record ↦ d.mergedWith record.device
    · cases h
      rw [hinsert]
      split_ifs with hupserted
      · rw [hupserted, part_of_unknown hknown]
      · rfl

end Records

/-! ## Shelves -/

/-- A shelf of the device records, and what the statements do to the rows that lie there. -/
structure Shelf (ρ : Type) where
  rows : DeviceRecord → KeyMap String ρ
  /-- the id of a row, and its device -/
  key : ρ → String × Uuid
  /-- the row that a statement puts there -/
  put : Statement → Option ρ
  /-- what a statement does to a row that it finds there -/
  mark : String → Uuid → Statement → ρ → ρ
  bare : ∀ d, rows { device := d } = .empty
  rows_device : ∀ record d, rows { record with device := d } = rows record
  put_gives : ∀ s row, put s = some row → s.gives = true ∧ ∃ f, s.change = some ((key row).2, f)
  get_change : ∀ s changed f record id, s.change = some (changed, f) →
    (rows (f record)).get id =
      if (put s).any (key · = (id, changed)) then put s
      else ((rows record).get id).map (mark id changed s)
  mark_other : ∀ id deviceId s, (∀ f, s.change ≠ some (deviceId, f)) →
    mark id deviceId s = fun row ↦ row

namespace Shelf

variable {ρ : Type} (shelf : Shelf ρ) (id : String) (deviceId : Uuid)

/-- The statement decides which row lies there. -/
def sets (s : Statement) : Bool :=
  (shelf.put s).any (shelf.key · = (id, deviceId)) || s.removes deviceId

/-- What a statement does to the row that lies there. -/
def note (row : Option ρ) (s : Statement) : Option ρ :=
  if shelf.sets id deviceId s then shelf.put s else row.map (shelf.mark id deviceId s)

/-- The row that lies there. -/
def kept (r : Records) : Option ρ :=
  (r.devices.get deviceId).bind fun record ↦ (shelf.rows record).get id

variable {shelf id deviceId} {r next : Records} {s : Statement} {answer : Option String}

theorem note_of_sets {row : Option ρ} (h : shelf.sets id deviceId s = true) :
    shelf.note id deviceId row s = shelf.put s := if_pos h

theorem note_of_not_sets {row : Option ρ} (h : ¬ shelf.sets id deviceId s = true) :
    shelf.note id deviceId row s = row.map (shelf.mark id deviceId s) := if_neg h

theorem put_eq_none (h : s.gives = false) : shelf.put s = none := by
  cases hput : shelf.put s with
  | none => rfl
  | some row => rw [(shelf.put_gives s row hput).1] at h; cases h

/-- Statements about other devices change nothing. -/
theorem note_of_other {row : Option ρ} (h : ∀ f, s.change ≠ some (deviceId, f))
    (hremoves : s.removes deviceId = false) : shelf.note id deviceId row s = row := by
  have hsets : ¬ shelf.sets id deviceId s = true := by
    rw [sets, hremoves, Bool.or_false, Option.any_eq_true]
    rintro ⟨put, hput, hkey⟩
    obtain ⟨-, f, hchange⟩ := shelf.put_gives s put hput
    rw [of_decide_eq_true hkey] at hchange
    exact h f hchange
  rw [note_of_not_sets hsets, shelf.mark_other id deviceId s h, Option.map_id']

/-! ### One statement -/

theorem kept_change (changed : Uuid) (f : DeviceRecord → DeviceRecord) :
    shelf.kept id deviceId (r.change changed f) =
      if deviceId = changed then
        (r.devices.get deviceId).bind fun record ↦ (shelf.rows (f record)).get id
      else shelf.kept id deviceId r := by
  rw [kept, Records.change, KeyMap.get_set]
  split_ifs with hchanged
  · rw [hchanged, Option.bind_map]
    rfl
  · rfl

/-- A device that comes in, under a new id or not, takes and brings no row. -/
theorem kept_upsertDevice {upserted : Uuid} {d : Device}
    (h : r.upsertDevice upserted d = .ok next) :
    shelf.kept id deviceId next = shelf.kept id deviceId r := by
  have hkept : ∀ r : Records, shelf.kept id deviceId r =
      r.part (fun record ↦ (shelf.rows record).get id) none deviceId := by
    intro r
    rw [kept, Records.part]
    cases r.devices.get deviceId <;> rfl
  rw [hkept, hkept]
  refine Records.part_upsertDevice (fun d ↦ ?_) (fun record d ↦ ?_) h
  · rw [shelf.bare]
    rfl
  · rw [shelf.rows_device]

/-- What a statement that does not fail does to what lies on the shelf. -/
theorem kept_apply (h : s.apply r = .ok (answer, next)) :
    shelf.kept id deviceId next = shelf.note id deviceId (shelf.kept id deviceId r) s := by
  rcases Statement.apply_cases h with ⟨d, rfl, hupserted⟩ | ⟨removed, rfl, hnext⟩ |
    ⟨timestamp, logged, event, detail, rfl, hnext⟩ | ⟨changed, f, hchange, rfl, hknown⟩
  · rw [kept_upsertDevice hupserted, note_of_other (fun f hf ↦ by cases hf) rfl]
  · rw [kept, hnext, KeyMap.get_remove]
    split_ifs with hdevice
    · rw [note_of_sets, put_eq_none rfl]
      · rfl
      · rw [sets, Bool.or_eq_true]
        exact .inr (decide_eq_true hdevice.symm)
    · have hremoves : (Statement.removeDevice removed).removes deviceId = false :=
        decide_eq_false (Ne.symm hdevice)
      rw [note_of_other (fun f hf ↦ by cases hf) hremoves]
      rfl
  · rw [note_of_other (fun f hf ↦ by cases hf) rfl, kept, hnext]
    rfl
  · have hremoves : s.removes deviceId = false := by
      cases s with
      | removeDevice removed => cases hchange
      | _ => rfl
    rw [kept_change]
    split_ifs with hdevice
    · subst hdevice
      simp only [shelf.get_change s _ f _ id hchange]
      rw [note, sets, hremoves, Bool.or_false]
      split_ifs with hput
      · obtain ⟨row, hrow, -⟩ := (Option.any_eq_true _ _).mp hput
        obtain ⟨record, hrecord⟩ :=
          Option.isSome_iff_exists.mp (hknown (shelf.put_gives s row hrow).1)
        rw [hrecord, Option.bind_some]
      · rw [kept, Option.map_bind]
        rfl
    · refine (note_of_other (fun g hg ↦ hdevice ?_) hremoves).symm
      rw [hchange] at hg
      exact (congrArg Prod.fst (Option.some.inj hg)).symm

/-! ### All statements -/

/-- Statements that only mark. -/
theorem foldl_note {log : List Statement} (h : ∀ s ∈ log, ¬ shelf.sets id deviceId s = true)
    (row : Option ρ) : log.foldl (shelf.note id deviceId) row =
      row.map fun stored ↦ log.foldl (fun marked s ↦ shelf.mark id deviceId s marked) stored := by
  induction log generalizing row with
  | nil => cases row <;> rfl
  | cons s log ih =>
    rw [List.forall_mem_cons] at h
    rw [List.foldl_cons, ih h.2, note_of_not_sets h.1, Option.map_map]
    rfl

variable (shelf id deviceId)

/-- What lies there after the statements of a log: what the last one that decided about it has put
there, with what the later ones have marked. -/
theorem kept_of_log (log : List Statement) :
    (∀ event rest, LastOf (shelf.sets id deviceId · = true) log event rest →
      log.foldl (shelf.note id deviceId) none = (shelf.put event).map fun row ↦
        rest.foldl (fun marked s ↦ shelf.mark id deviceId s marked) row) ∧
    ((∀ s ∈ log, ¬ shelf.sets id deviceId s = true) →
      log.foldl (shelf.note id deviceId) none = none) := by
  constructor
  · intro event rest h
    obtain ⟨front, rfl⟩ := h.split
    rw [List.foldl_append, List.foldl_cons, foldl_note h.none_after, note_of_sets h.holds]
  · exact fun h ↦ foldl_note h none

/-- After any sequence of statements the statements that have not failed say what lies there. -/
theorem kept_perform (statements : List Statement) :
    shelf.kept id deviceId
        (Service.perform (fun (db : Db) (s : Statement) ↦ s.run db) Db.empty statements).2.records =
      (Service.accepted (fun (db : Db) (s : Statement) ↦ s.run db) Db.empty statements).foldl
        (shelf.note id deviceId) none := by
  have hstep : ∀ (db : Db) (s : Statement) answer next, db.Regular →
      s.run db = .ok (answer, next) →
        shelf.kept id deviceId next.records =
          shelf.note id deviceId (shelf.kept id deviceId db.records) s := by
    intro db s answer next hregular hrun
    exact kept_apply (apply_of_run hregular hrun)
  exact Service.part_perform (fun db : Db ↦ shelf.kept id deviceId db.records)
    (shelf.note id deviceId) (fun _ _ _ _ ↦ regular_run) hstep regular_empty statements

end Shelf

end PhoneBridge.Storage
