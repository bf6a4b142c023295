import PhoneBridge.MessageCenter.NotificationCounters
import PhoneBridge.MessageCenter.OtherTasks
import PhoneBridge.MessageCenter.Rest

/-!
# Marking all notifications as read

`POST /api/v1/notifications/mark-all-read`: the unread notifications are listed, up to a limit, and
then updated one by one while other tasks go on. A statement that fails is skipped, and the answer is
204 all the same.
-/

namespace PhoneBridge.MessageCenter

open Library Select Storage

/-! ## The handler among other tasks -/

/-- What happens around an update of the handler. -/
structure ReadMoment where
  /-- what other tasks execute before it -/
  meanwhile : List Executed
  outage : Outage

/-- The loop of the handler: an error is dropped. -/
def markEach (script : Nat → ReadMoment) (i : Nat) : List NotificationRow → Db → Db
  | [], db => (script i).meanwhile.foldl Executed.run db
  | n :: rows, db =>
    let before := (script i).meanwhile.foldl Executed.run db
    markEach script (i + 1) rows (before.afterStatement
      (execute (script i).outage (before.markNotificationRead n.deviceId n.id)))

/-- `POST /api/v1/notifications/mark-all-read`. -/
def markAllNotificationsRead (queryMessage : QueryError → String) (db : Db)
    (visit : Visit db.notifications.rows) (listOutage : Outage) (script : Nat → ReadMoment)
    (deviceId : Option Uuid) : Response × Db :=
  match queried listOutage (db.listNotifications visit deviceId 100000 true none) with
  | .ok rows => ({ status := 204, text := "" }, markEach script 0 rows db)
  | .error e =>
    let reason := queryMessage e
    ({ status := 500, text := s!"db: {reason}" }, db)

/-- The rows that the handler lists. -/
def unreadListing (db : Db) (visit : Visit db.notifications.rows) (deviceId : Option Uuid) :
    List NotificationRow :=
  newest (wantedNotification deviceId true none) (·.postedAt) 100000 visit

theorem markAllNotificationsRead_eq (queryMessage : QueryError → String) (db : Db)
    (visit : Visit db.notifications.rows) (script : Nat → ReadMoment) (deviceId : Option Uuid) :
    markAllNotificationsRead queryMessage db visit none script deviceId =
      ({ status := 204, text := "" }, markEach script 0 (unreadListing db visit deviceId) db) := by
  have hlist := listNotifications_eq deviceId true none db visit
    (by decide : (0 : Int64) ≤ 100000)
  simp only [markAllNotificationsRead, queried, hlist, Except.mapError]
  rfl

/-! ## What a call leaves unread -/

def notificationKey (row : NotificationRow) : NotificationKey := (row.id, row.deviceId)

/-- What other tasks execute in `count` moments from the first one on. -/
def othersFrom (script : Nat → ReadMoment) (first count : Nat) : List Executed :=
  (List.range' first count).flatMap fun i ↦ (script i).meanwhile

section Calls

variable (queryMessage : QueryError → String) (db : Db) (visit : Visit db.notifications.rows)
  (listOutage : Outage) (script : Nat → ReadMoment) (deviceId : Option Uuid)

/-- The notification has this place in the listing, and its update is executed. -/
def UpdatedAt (row : NotificationRow) (place : Nat) : Prop :=
  (unreadListing db visit deviceId)[place]? = some row ∧ (script place).outage = none

/-- When the update of the notification is executed, the last word of the others after it is not that
the notification is unread; when it is not, their last word in the whole call is that it is read, or
they say nothing and it was read from the start. The words are those that the other tasks say on their
own. -/
structure EndsRead (row : NotificationRow) : Prop where
  updated : ∀ place, UpdatedAt db visit script deviceId row place →
    lastWord (notificationKey row) ((othersFrom script 0 (place + 1)).foldl Executed.run db)
      (othersFrom script (place + 1) ((unreadListing db visit deviceId).length - place)) ≠ some true
  missed : (∀ place, ¬ UpdatedAt db visit script deviceId row place) →
    (lastWord (notificationKey row) db
      (othersFrom script 0 ((unreadListing db visit deviceId).length + 1))).getD (!row.read) = false

/-- When the call answers 204, none of the notifications in scope that existed when it began is still
unread, and those out of scope are as the other tasks on their own leave them. -/
def MarksAllRead : Prop :=
  let answer := markAllNotificationsRead queryMessage db visit listOutage script deviceId
  answer.1.status = 204 →
    (∀ row ∈ db.notifications.rows, inScope deviceId row = true →
      ¬ Unread (notificationKey row) answer.2) ∧
    answer.2.notifications.rows.filter (!inScope deviceId ·) =
      ((othersFrom script 0 ((unreadListing db visit deviceId).length + 1)).foldl Executed.run
        db).notifications.rows.filter (!inScope deviceId ·)

variable {db visit script deviceId}

theorem mem_unreadListing {n : NotificationRow} (h : n ∈ unreadListing db visit deviceId) :
    n ∈ db.notifications.rows ∧ inScope deviceId n = true ∧ n.read = false := by
  have hsorted := List.mem_of_mem_take h
  have hwanted := (List.mergeSort_perm _ _).mem_iff.mp hsorted
  obtain ⟨hrow, hfilter⟩ := List.mem_filter.mp hwanted
  refine ⟨visit.property.mem_iff.mp hrow, ?_⟩
  simpa [wantedNotification, inScope] using hfilter

theorem othersFrom_succ (first count : Nat) : othersFrom script first (count + 1) =
    (script first).meanwhile ++ othersFrom script (first + 1) count := by
  rw [othersFrom, List.range'_succ, List.flatMap_cons]
  rfl

/-- The keys of a listing are distinct. -/
theorem nodup_unreadListing : ((unreadListing db visit deviceId).map notificationKey).Nodup := by
  have hvisit : (visit.val.map notificationKey).Nodup :=
    ((visit.property.map notificationKey).nodup_iff).mpr db.notifications.nodup
  have hsorted : (((visit.val.filter (wantedNotification deviceId true none)).mergeSort
      (newestFirst (·.postedAt))).map notificationKey).Nodup :=
    (((List.mergeSort_perm _ _).map notificationKey).nodup_iff).mpr
      (hvisit.sublist (List.filter_sublist.map notificationKey))
  exact hsorted.sublist ((List.take_sublist _ _).map notificationKey)

section Loop

variable {alone : Db} {rows : List NotificationRow} {i : Nat} {k : NotificationKey}

/-- One update of the loop. -/
theorem alike_update {n : NotificationRow} (h : AlikeBut deviceId alone.toTables db.toTables)
    (hscope : inScope deviceId n = true) (outage : Outage) :
    AlikeBut deviceId alone.toTables
      (db.afterStatement (execute outage (db.markNotificationRead n.deviceId n.id))).toTables := by
  cases outage with
  | some message => exact h
  | none =>
    rw [afterStatement_none]
    exact h.marked n.id hscope

/-- The loop touches only what it has listed, and so is in scope. -/
theorem alike_markEach (h : AlikeBut deviceId alone.toTables db.toTables)
    (hscope : ∀ n ∈ rows, inScope deviceId n = true) :
    AlikeBut deviceId ((othersFrom script i (rows.length + 1)).foldl Executed.run alone).toTables
      (markEach script i rows db).toTables := by
  induction rows generalizing i db alone with
  | nil =>
    rw [markEach, List.length_nil, othersFrom_succ, List.foldl_append]
    exact h.foldl _
  | cons n rows ih =>
    rw [List.forall_mem_cons] at hscope
    rw [markEach, List.length_cons, othersFrom_succ, List.foldl_append]
    exact ih (alike_update (h.foldl _) hscope.1 _) hscope.2

/-- The update of a notification is executed or skipped, and says nothing about another one. -/
theorem unread_update (n : NotificationRow) (outage : Outage) :
    Unread k (db.afterStatement (execute outage (db.markNotificationRead n.deviceId n.id))) ↔
      Unread k db ∧ ¬ (notificationKey n = k ∧ outage = none) := by
  cases outage with
  | some message => simp
  | none =>
    rw [afterStatement_none]
    refine (unread_marked db n.deviceId n.id k).trans ?_
    simp [notificationKey]

/-- A loop that executes no update of a notification leaves it to the others. -/
theorem decides_missed (h : AlikeBut deviceId alone.toTables db.toTables)
    (hscope : ∀ n ∈ rows, inScope deviceId n = true)
    (hmissed : ∀ place n, rows[place]? = some n → notificationKey n = k →
      (script (i + place)).outage ≠ none) :
    Decides k db (markEach script i rows db)
      (lastWord k alone (othersFrom script i (rows.length + 1))) := by
  induction rows generalizing i db alone with
  | nil =>
    rw [markEach, List.length_nil, othersFrom_succ, lastWord_append, ← h.lastWord]
    exact decides_foldl db _ k
  | cons n rows ih =>
    rw [List.forall_mem_cons] at hscope
    rw [markEach, List.length_cons, othersFrom_succ, lastWord_append, ← h.lastWord k]
    refine (decides_foldl db _ k).trans ?_
    have hskipped : ¬ (notificationKey n = k ∧ (script i).outage = none) :=
      fun hupdated ↦ hmissed 0 n rfl hupdated.1 hupdated.2
    refine Iff.trans (ih (alike_update (h.foldl _) hscope.1 _) hscope.2 fun place other hother hk ↦ ?_)
      ?_
    · rw [Nat.add_right_comm]
      exact hmissed (place + 1) other hother hk
    · rw [unread_update, and_iff_left hskipped]

/-- After its update, a notification is left to the others. -/
theorem unread_updated (h : AlikeBut deviceId alone.toTables db.toTables)
    (hscope : ∀ n ∈ rows, inScope deviceId n = true) (hnodup : (rows.map notificationKey).Nodup)
    {place : Nat} {n : NotificationRow} (hplace : rows[place]? = some n)
    (hexecuted : (script (i + place)).outage = none) :
    Unread (notificationKey n) (markEach script i rows db) ↔
      lastWord (notificationKey n) ((othersFrom script i (place + 1)).foldl Executed.run alone)
        (othersFrom script (i + place + 1) (rows.length - place)) = some true := by
  induction rows generalizing i db alone place with
  | nil => simp at hplace
  | cons first rows ih =>
    rw [List.forall_mem_cons] at hscope
    rw [List.map_cons, List.nodup_cons] at hnodup
    have hnext := alike_update (h.foldl (script i).meanwhile) hscope.1 (script i).outage
    rw [markEach, othersFrom_succ, List.foldl_append]
    cases place with
    | zero =>
      obtain rfl : first = n := Option.some.inj hplace
      have hothers : ∀ later m, rows[later]? = some m → notificationKey m = notificationKey first →
          (script (i + 1 + later)).outage ≠ none := by
        intro later m hm hkey
        exact absurd (hkey ▸ List.mem_map_of_mem (List.mem_of_getElem? hm)) hnodup.1
      refine Iff.trans (decides_missed hnext hscope.2 hothers) ?_
      have hread : ¬ Unread (notificationKey first) (Db.afterStatement
          ((script i).meanwhile.foldl Executed.run db)
          (execute (script i).outage (((script i).meanwhile.foldl Executed.run db).markNotificationRead
            first.deviceId first.id))) :=
        fun hunread ↦ ((unread_update first _).mp hunread).2 ⟨rfl, hexecuted⟩
      change _ ↔ lastWord _ _ (othersFrom script (i + 1) (rows.length + 1)) = _
      cases hword : lastWord (notificationKey first) ((script i).meanwhile.foldl Executed.run alone)
        (othersFrom script (i + 1) (rows.length + 1)) <;> simp_all [othersFrom]
    | succ place =>
      have hplace' : rows[place]? = some n := hplace
      have hexecuted' : (script (i + 1 + place)).outage = none := by
        rw [Nat.add_right_comm]
        exact hexecuted
      refine Iff.trans (ih hnext hscope.2 hnodup.2 hplace' hexecuted') ?_
      rw [List.length_cons, Nat.succ_sub_succ, Nat.add_right_comm i 1 place]
      exact Iff.rfl

end Loop

section Listed

variable {row : NotificationRow}

theorem inScope_of_listed : ∀ n ∈ unreadListing db visit deviceId, inScope deviceId n = true :=
  fun _ hn ↦ (mem_unreadListing hn).2.1

/-- The rows are told apart by their keys. -/
theorem unread_iff_of_mem (hrow : row ∈ db.notifications.rows) :
    Unread (notificationKey row) db ↔ row.read = false := by
  constructor
  · rintro ⟨other, hother, hkey, hread⟩
    have hsame : other = row := List.inj_on_of_nodup_map db.notifications.nodup hother hrow hkey
    exact hsame ▸ hread
  · exact fun hread ↦ ⟨row, hrow, rfl, hread⟩

/-- A notification whose update is executed is left to the words after it. -/
theorem unread_of_updatedAt {place : Nat} (h : UpdatedAt db visit script deviceId row place) :
    Unread (notificationKey row) (markEach script 0 (unreadListing db visit deviceId) db) ↔
      lastWord (notificationKey row) ((othersFrom script 0 (place + 1)).foldl Executed.run db)
        (othersFrom script (place + 1) ((unreadListing db visit deviceId).length - place)) =
          some true := by
  have hleft := unread_updated (i := 0) (AlikeBut.refl deviceId db.toTables) inScope_of_listed
    nodup_unreadListing h.1 ((Nat.zero_add place).symm ▸ h.2)
  rwa [Nat.zero_add] at hleft

/-- A notification that the call does not update is left to the words in the whole call. -/
theorem unread_of_missed (hrow : row ∈ db.notifications.rows)
    (hnone : ∀ place, ¬ UpdatedAt db visit script deviceId row place) :
    Unread (notificationKey row) (markEach script 0 (unreadListing db visit deviceId) db) ↔
      (lastWord (notificationKey row) db (othersFrom script 0
        ((unreadListing db visit deviceId).length + 1))).getD (!row.read) = true := by
  have hmissed : ∀ place n, (unreadListing db visit deviceId)[place]? = some n →
      notificationKey n = notificationKey row → (script (0 + place)).outage ≠ none := by
    intro place n hn hkey hexecuted
    have hsame : n = row := List.inj_on_of_nodup_map db.notifications.nodup
      (mem_unreadListing (List.mem_of_getElem? hn)).1 hrow hkey
    subst hsame
    exact hnone place ⟨hn, (Nat.zero_add place) ▸ hexecuted⟩
  have hleft := decides_missed (AlikeBut.refl deviceId db.toTables) inScope_of_listed hmissed
  rw [Decides, unread_iff_of_mem hrow] at hleft
  rw [hleft]
  cases lastWord (notificationKey row) db
    (othersFrom script 0 ((unreadListing db visit deviceId).length + 1)) <;> simp

/-- A notification in scope is read after the call exactly when its place, the outages and the words
of the others say so. -/
theorem read_iff_endsRead (hrow : row ∈ db.notifications.rows) :
    ¬ Unread (notificationKey row) (markEach script 0 (unreadListing db visit deviceId) db) ↔
      EndsRead db visit script deviceId row := by
  constructor
  · intro hread
    refine ⟨fun place h ↦ (unread_of_updatedAt h).not.mp hread, fun hnone ↦ ?_⟩
    exact Bool.eq_false_iff.mpr ((unread_of_missed hrow hnone).not.mp hread)
  · intro hends
    by_cases hplace : ∃ place, UpdatedAt db visit script deviceId row place
    · obtain ⟨place, h⟩ := hplace
      exact (unread_of_updatedAt h).not.mpr (hends.updated place h)
    · have hnone := not_exists.mp hplace
      exact (unread_of_missed hrow hnone).not.mpr (Bool.eq_false_iff.mp (hends.missed hnone))

end Listed

variable (db visit script deviceId)

/-- A call is complete exactly when each notification in scope ends as read. -/
theorem marks_all_read_iff : MarksAllRead queryMessage db visit listOutage script deviceId ↔
    (listOutage = none → ∀ row ∈ db.notifications.rows, inScope deviceId row = true →
      EndsRead db visit script deviceId row) := by
  cases listOutage with
  | some message => simp [MarksAllRead, markAllNotificationsRead, queried]
  | none =>
    simp only [MarksAllRead, markAllNotificationsRead_eq, forall_true_left]
    constructor
    · intro h row hrow hscope
      exact (read_iff_endsRead hrow).mp (h.1 row hrow hscope)
    · intro hends
      refine ⟨fun row hrow hscope ↦ (read_iff_endsRead hrow).mpr (hends row hrow hscope), ?_⟩
      exact (alike_markEach (AlikeBut.refl deviceId db.toTables) inScope_of_listed).others

end Calls

/-! ## A call on its own -/

/-- No other task acts, and every statement is executed. -/
def undisturbed : Nat → ReadMoment := fun _ ↦ { meanwhile := [], outage := none }

section Undisturbed

variable (db : Db) (visit : Visit db.notifications.rows) (deviceId : Option Uuid)

theorem othersFrom_undisturbed (first count : Nat) : othersFrom undisturbed first count = [] := by
  simp [othersFrom, undisturbed]

/-- The unread notifications in scope. -/
def unreadRows : List NotificationRow :=
  db.notifications.rows.filter (wantedNotification deviceId true none)

theorem length_unreadRows :
    (unreadRows db deviceId).length = db.countUnreadNotifications deviceId := by
  rw [unreadRows, Db.countUnreadNotifications, List.countP_eq_length_filter]
  exact congrArg List.length
    (List.filter_congr fun row _ ↦ by simp [wantedNotification, Bool.and_comm])

/-- On its own, a call leaves read what was read or is in its listing. -/
theorem endsRead_undisturbed (row : NotificationRow) :
    EndsRead db visit undisturbed deviceId row ↔
      (row.read = false → row ∈ unreadListing db visit deviceId) := by
  have hplace : (∃ place, UpdatedAt db visit undisturbed deviceId row place) ↔
      row ∈ unreadListing db visit deviceId := by
    simp only [UpdatedAt, undisturbed, and_true]
    exact List.mem_iff_getElem?.symm
  rw [← hplace]
  constructor
  · intro hends hread
    by_contra hnone
    have hleft := hends.missed (not_exists.mp hnone)
    simp [othersFrom_undisturbed, lastWord, hread] at hleft
  · intro hlisted
    refine ⟨fun place _ ↦ by simp [othersFrom_undisturbed, lastWord], fun hnone ↦ ?_⟩
    rw [othersFrom_undisturbed, lastWord, Option.getD_none]
    by_contra hread
    exact (not_exists.mpr hnone) (hlisted (by simpa using hread))

/-- On its own, a call is complete as long as its listing is not cut. -/
theorem undisturbed_complete_iff :
    (∀ row ∈ db.notifications.rows, inScope deviceId row = true →
      EndsRead db visit undisturbed deviceId row) ↔
      db.countUnreadNotifications deviceId ≤ 100000 := by
  have hperm : ((visit.val.filter (wantedNotification deviceId true none)).mergeSort
      (newestFirst (·.postedAt))).Perm (unreadRows db deviceId) :=
    (List.mergeSort_perm _ _).trans (visit.property.filter _)
  have hwanted : ∀ row, row ∈ unreadRows db deviceId ↔
      row ∈ db.notifications.rows ∧ inScope deviceId row = true ∧ row.read = false := by
    intro row
    rw [unreadRows, List.mem_filter]
    simp [wantedNotification, inScope]
  have hall : (∀ row ∈ db.notifications.rows, inScope deviceId row = true →
      EndsRead db visit undisturbed deviceId row) ↔
      ∀ row ∈ unreadRows db deviceId, row ∈ unreadListing db visit deviceId := by
    simp only [endsRead_undisturbed, hwanted]
    exact ⟨fun h row hrow ↦ h row hrow.1 hrow.2.1 hrow.2.2,
      fun h row hrow hscope hread ↦ h row ⟨hrow, hscope, hread⟩⟩
  rw [hall, ← length_unreadRows]
  constructor
  · intro hlisted
    have hnodup : (unreadRows db deviceId).Nodup :=
      (List.Nodup.of_map _ db.notifications.nodup).filter _
    exact (List.subperm_of_subset hnodup hlisted).length_le.trans (List.length_take_le _ _)
  · intro hshort row hrow
    have huncut : unreadListing db visit deviceId =
        (visit.val.filter (wantedNotification deviceId true none)).mergeSort
          (newestFirst (·.postedAt)) :=
      List.take_of_length_le (by rw [hperm.length_eq]; exact hshort)
    rw [huncut]
    exact hperm.mem_iff.mpr hrow

end Undisturbed

/-- A call on its own for a phone with `n` unread notifications. -/
theorem crowded_complete_iff (queryMessage : QueryError → String) (n : Nat) :
    MarksAllRead queryMessage (crowded n) ⟨_, .rfl⟩ none undisturbed none ↔ n ≤ 100000 := by
  rw [marks_all_read_iff, undisturbed_complete_iff, countUnread_crowded]
  exact forall_prop_of_true rfl

/-- With 100001 unread notifications one of them is left unread. -/
theorem large_tables_stay_unread : ¬ ∀ (queryMessage : QueryError → String) (db : Db)
    (visit : Visit db.notifications.rows) (listOutage : Outage) (script : Nat → ReadMoment)
    (deviceId : Option Uuid), MarksAllRead queryMessage db visit listOutage script deviceId := by
  intro h
  have hcomplete : ∀ n, n ≤ 100000 := by
    intro n
    exact (crowded_complete_iff (fun _ ↦ "") n).mp (h _ _ _ _ _ _)
  exact Nat.not_succ_le_self 100000 (hcomplete (100000 + 1))

end PhoneBridge.MessageCenter
