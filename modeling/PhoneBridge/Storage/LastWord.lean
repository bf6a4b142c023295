import PhoneBridge.Storage.Shelves

/-!
# The last word about a notification

What is stored of a notification after any sequence of statements, from the statements that have not
failed: the row of the last time it was posted, unless its device has been removed since, read when
it was posted as read or has been marked since.
-/

namespace PhoneBridge.Storage

open Library

namespace Statement

/-- The row that a statement posts. -/
def posted : Statement → Option NotificationRow
  | .insertNotification n => some n
  | _ => none

/-- The statement marks the notification as read. -/
def marks (id : String) (deviceId : Uuid) : Statement → Bool
  | .markNotificationRead marked notificationId => marked = deviceId && notificationId = id
  | .dismissNotification marked notificationId => marked = deviceId && notificationId = id
  | _ => false

end Statement

def NotificationRow.markedIf (n : NotificationRow) (marked : Bool) : NotificationRow :=
  { n with read := n.read || marked }

theorem NotificationRow.markedIf_false (n : NotificationRow) : n.markedIf false = n := by
  rw [markedIf, Bool.or_false]

theorem get_markRead (notificationId id : String) (record : DeviceRecord) :
    (Statement.markRead notificationId record).notifications.get id =
      (record.notifications.get id).map (·.markedIf (notificationId = id)) := by
  change (record.notifications.set _ _).get id = _
  rw [KeyMap.get_set]
  by_cases hid : id = notificationId
  · subst hid
    simp [NotificationRow.markedIf]
  · simp [hid, Ne.symm hid, NotificationRow.markedIf_false]

def notificationShelf : Shelf NotificationRow where
  rows := (·.notifications)
  key row := (row.id, row.deviceId)
  put := Statement.posted
  mark id deviceId s row := row.markedIf (s.marks id deviceId)
  bare _ := rfl
  rows_device _ _ := rfl
  put_gives s row h := by
    cases s with
    | insertNotification n =>
      cases h
      exact ⟨rfl, _, rfl⟩
    | _ => cases h
  get_change s changed f record id h := by
    cases s with
    | insertNotification n =>
      cases h
      rw [KeyMap.get_insert]
      by_cases hid : id = n.id <;>
        simp [hid, eq_comm, Statement.posted, Statement.marks, NotificationRow.markedIf_false]
    | markNotificationRead _ notificationId | dismissNotification _ notificationId =>
      cases h
      rw [get_markRead]
      simp [Statement.posted, Statement.marks]
    | touchDevice _ _ | insertPairing _ _ _ _ | markDevicePaired _ | insertSms _ | insertCall _ =>
      cases h
      simp [Statement.posted, Statement.marks, NotificationRow.markedIf_false]
    | upsertDevice _ | removeDevice _ | insertAuditLog _ _ _ _ => cases h
  mark_other id deviceId s h := by
    funext row
    cases s with
    | markNotificationRead marked _ | dismissNotification marked _ =>
      have hmarked : marked ≠ deviceId := fun heq ↦ h _ (by rw [← heq]; rfl)
      simp [Statement.marks, hmarked, NotificationRow.markedIf_false]
    | _ => exact row.markedIf_false

/-- Marks add up. -/
theorem foldl_marks (id : String) (deviceId : Uuid) (log : List Statement) (n : NotificationRow) :
    log.foldl (fun marked s ↦ notificationShelf.mark id deviceId s marked) n =
      n.markedIf (log.any (Statement.marks id deviceId)) := by
  induction log generalizing n with
  | nil => exact n.markedIf_false.symm
  | cons s log ih =>
    rw [List.foldl_cons, ih, List.any_cons]
    change NotificationRow.markedIf (n.markedIf _) _ = _
    simp only [NotificationRow.markedIf, Bool.or_assoc]

/-- What is stored of a notification after any sequence of statements on a new database: nothing
when it has not been posted, or its device has been removed since; else the row that was posted
last, read when it was posted as read or has been marked since. -/
theorem notification_has_last_word (id : String) (deviceId : Uuid) (statements : List Statement) :
    let run := fun (db : Db) (s : Statement) ↦ s.run db
    let log := Service.accepted run Db.empty statements
    let stored := lookupBy (fun row ↦ (row.id, row.deviceId))
      (Service.perform run Db.empty statements).2.notifications.rows (id, deviceId)
    (∀ event rest, LastOf (notificationShelf.sets id deviceId · = true) log event rest →
      stored = event.posted.map (·.markedIf (rest.any (Statement.marks id deviceId)))) ∧
    ((∀ s ∈ log, ¬ notificationShelf.sets id deviceId s = true) → stored = none) := by
  intro run log stored
  have hstored : stored = log.foldl (notificationShelf.note id deviceId) none :=
    (get_notification _ deviceId id).symm.trans
      (notificationShelf.kept_perform id deviceId statements)
  obtain ⟨hlast, hnone⟩ := notificationShelf.kept_of_log id deviceId log
  rw [hstored]
  refine ⟨fun event rest h ↦ ?_, hnone⟩
  rw [hlast event rest h]
  simp only [foldl_marks]
  rfl

end PhoneBridge.Storage
