import PhoneBridge.Storage.Shelves

/-!
# The messages that are kept

Which messages the table holds after any sequence of statements: those whose last word is their own
insertion.
-/

namespace PhoneBridge.Storage

open Library

/-- The message that a statement inserts. -/
def Statement.inserted : Statement → Option SmsRow
  | .insertSms s => some s
  | _ => none

def messageShelf : Shelf SmsRow where
  rows := (·.smsMessages)
  key row := (row.id, row.deviceId)
  put := Statement.inserted
  mark _ _ _ row := row
  bare _ := rfl
  rows_device _ _ := rfl
  put_gives s row h := by
    cases s with
    | insertSms m =>
      cases h
      exact ⟨rfl, _, rfl⟩
    | _ => cases h
  get_change s changed f record id h := by
    cases s with
    | insertSms m =>
      cases h
      rw [KeyMap.get_insert]
      by_cases hid : id = m.id <;> simp [hid, eq_comm, Statement.inserted]
    | upsertDevice _ | removeDevice _ | insertAuditLog _ _ _ _ => cases h
    | touchDevice _ _ | insertPairing _ _ _ _ | markDevicePaired _ | insertNotification _
    | markNotificationRead _ _ | dismissNotification _ _ | insertCall _ =>
      cases h
      simp [Statement.inserted, Statement.markRead]
  mark_other _ _ _ _ := rfl

/-- The last word about a message is its own insertion. -/
def Kept (log : List Statement) (m : SmsRow) : Prop :=
  ∃ rest, LastOf (messageShelf.sets m.id m.deviceId · = true) log (.insertSms m) rest

/-- The table holds the messages that are kept, whatever has been written and removed. -/
theorem mem_smsMessages_perform (statements : List Statement) (m : SmsRow) :
    let run := fun (db : Db) (s : Statement) ↦ s.run db
    m ∈ (Service.perform run Db.empty statements).2.smsMessages.rows ↔
      Kept (Service.accepted run Db.empty statements) m := by
  intro run
  let db := (Service.perform run Db.empty statements).2
  let log := Service.accepted run Db.empty statements
  have hmem : m ∈ db.smsMessages.rows ↔
      log.foldl (messageShelf.note m.id m.deviceId) none = some m := by
    have hkept : messageShelf.kept m.id m.deviceId db.records = _ := get_message db m.deviceId m.id
    rw [← messageShelf.kept_perform m.id m.deviceId statements, hkept,
      lookupBy_eq_some db.smsMessages.nodup]
    exact (and_iff_left rfl).symm
  obtain ⟨hlast, hnone⟩ := messageShelf.kept_of_log m.id m.deviceId log
  refine hmem.trans ⟨fun h ↦ ?_, fun ⟨rest, h⟩ ↦ ?_⟩
  · by_cases hsets : ∃ s ∈ log, messageShelf.sets m.id m.deviceId s = true
    · obtain ⟨event, rest, hevent⟩ := exists_lastOf hsets
      rw [hlast event rest hevent, Option.map_eq_some_iff] at h
      obtain ⟨row, hrow, hfold⟩ := h
      have hunmarked : row = m := by
        rw [← hfold]
        exact (List.foldl_fixed rest).symm
      cases event with
      | insertSms inserted =>
        obtain rfl : inserted = row := Option.some.inj hrow
        subst hunmarked
        exact ⟨rest, hevent⟩
      | _ => cases hrow
    · push Not at hsets
      rw [hnone hsets] at h
      cases h
  · rw [hlast _ rest h]
    exact congrArg some (List.foldl_fixed rest)

end PhoneBridge.Storage
