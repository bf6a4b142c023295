import PhoneBridge.Library.Broadcast
import PhoneBridge.Library.Run
import PhoneBridge.Proto.Display

/-!
# The subscribers of the display bus

The bus counts its subscribers beside the broadcast channel, and publishing looks at the count
before it sends. A run is any interleaving of tasks that subscribe, drop a subscriber, publish and
receive. A subscriber enters the count before it has a receiver and leaves it before the receiver is
gone, so nobody with a receiver is overlooked, but a subscriber may be dropped between the look at
the count and the send.
-/

namespace PhoneBridge.MessageCenter

open Library Broadcast Proto

/-- The number of a task, and of a subscriber. -/
abbrev BusTaskId := Nat

abbrev SubscriberId := Nat

/-- Where a task is in an operation of the bus. -/
inductive BusTask
  /-- in `subscribe`: the lock is held and the subscriber has been counted -/
  | counted (subscriber : SubscriberId)
  /-- in `subscribe`: the lock is held and the receiver has been opened -/
  | opened (subscriber : SubscriberId)
  /-- in `drop`: the lock is held and the subscriber is no longer counted -/
  | uncounted (subscriber : SubscriberId)
  /-- in `drop`: the lock has been released and the receiver is still open -/
  | closing (subscriber : SubscriberId)
  /-- in `publish`: about to look at the count; `owed` are the subscribers at the call -/
  | publishing (event : DisplayEvent) (owed : List SubscriberId)
  /-- in `publish`: the count was not zero -/
  | sending (event : DisplayEvent) (owed : List SubscriberId)

/-- A publish that has returned. -/
structure Published where
  event : DisplayEvent
  /-- the subscribers when it was called -/
  owed : List SubscriberId
  /-- the subscribers when it sent the event or found the count at zero -/
  present : List SubscriberId
  /-- the number of the event in the channel -/
  number : Option Nat
  /-- the number of receivers that it has returned -/
  result : Nat

/-- The bus with the tasks that use it. -/
structure BusRun where
  channel : Channel SubscriberId DisplayEvent
  subscriberCount : Nat
  lock : Option BusTaskId
  tasks : KeyMap BusTaskId BusTask
  /-- the subscribers that `subscribe` has returned and whose drop has not begun -/
  live : List SubscriberId
  /-- the numbers of subscribers that have been used -/
  used : List SubscriberId
  /-- has a drop found the count at zero? -/
  underflowed : Bool
  published : List Published

/-- `DisplayBus::new` -/
def BusRun.new (capacity : Nat) : BusRun where
  channel := .empty capacity
  subscriberCount := 0
  lock := none
  tasks := .empty
  live := []
  used := []
  underflowed := false
  published := []

inductive BusLabel
  /-- `subscribe` takes the lock and counts -/
  | count (task : BusTaskId) (subscriber : SubscriberId)
  /-- the receiver is opened -/
  | openReceiver (task : BusTaskId)
  /-- `subscribe` returns and releases the lock -/
  | returnSubscriber (task : BusTaskId)
  /-- `drop` takes the lock and decrements the count -/
  | uncount (task : BusTaskId) (subscriber : SubscriberId)
  /-- `drop` releases the lock -/
  | unlock (task : BusTaskId)
  /-- the receiver is dropped -/
  | closeReceiver (task : BusTaskId)
  | publish (task : BusTaskId) (event : DisplayEvent)
  /-- `publish` looks at the count -/
  | check (task : BusTaskId)
  /-- `publish` sends the event -/
  | send (task : BusTaskId)
  /-- a subscriber receives -/
  | recv (subscriber : SubscriberId)

namespace BusRun

def count (s : BusRun) (task : BusTaskId) (subscriber : SubscriberId) : Option BusRun :=
  if s.lock = none ∧ s.tasks.get task = none ∧ subscriber ∉ s.used then
    some { s with
      lock := some task
      subscriberCount := s.subscriberCount + 1
      tasks := s.tasks.insert task (.counted subscriber)
      used := subscriber :: s.used }
  else none

def openReceiver (s : BusRun) (task : BusTaskId) : Option BusRun :=
  match s.tasks.get task with
  | some (.counted subscriber) => some { s with
      channel := s.channel.subscribe subscriber
      tasks := s.tasks.insert task (.opened subscriber) }
  | _ => none

def returnSubscriber (s : BusRun) (task : BusTaskId) : Option BusRun :=
  match s.tasks.get task with
  | some (.opened subscriber) => some { s with
      lock := none
      tasks := s.tasks.remove task
      live := subscriber :: s.live }
  | _ => none

/-- Natural subtraction saturates like `saturating_sub`. -/
def uncount (s : BusRun) (task : BusTaskId) (subscriber : SubscriberId) : Option BusRun :=
  if s.lock = none ∧ s.tasks.get task = none ∧ subscriber ∈ s.live then
    some { s with
      lock := some task
      subscriberCount := s.subscriberCount - 1
      tasks := s.tasks.insert task (.uncounted subscriber)
      live := s.live.erase subscriber
      underflowed := s.underflowed || decide (s.subscriberCount = 0) }
  else none

def unlock (s : BusRun) (task : BusTaskId) : Option BusRun :=
  match s.tasks.get task with
  | some (.uncounted subscriber) => some { s with
      lock := none
      tasks := s.tasks.insert task (.closing subscriber) }
  | _ => none

def closeReceiver (s : BusRun) (task : BusTaskId) : Option BusRun :=
  match s.tasks.get task with
  | some (.closing subscriber) => some { s with
      channel := s.channel.close subscriber
      tasks := s.tasks.remove task }
  | _ => none

def publish (s : BusRun) (task : BusTaskId) (event : DisplayEvent) : Option BusRun :=
  if s.tasks.get task = none then
    some { s with tasks := s.tasks.insert task (.publishing event s.live) }
  else none

def check (s : BusRun) (task : BusTaskId) : Option BusRun :=
  match s.tasks.get task with
  | some (.publishing event owed) =>
    if s.lock ≠ none then none
    else if s.subscriberCount = 0 then
      some { s with
        tasks := s.tasks.remove task
        published := { event, owed, present := s.live, number := none, result := 0 } ::
          s.published }
    else some { s with tasks := s.tasks.insert task (.sending event owed) }
  | _ => none

def send (s : BusRun) (task : BusTaskId) : Option BusRun :=
  match s.tasks.get task with
  | some (.sending event owed) =>
    let sent := s.channel.send event
    some { s with
      channel := sent.2
      tasks := s.tasks.remove task
      published := {
        event, owed
        present := s.live
        number := sent.1.map fun _ ↦ s.channel.sent.length
        result := sent.1.getD 0 } :: s.published }
  | _ => none

def recv (s : BusRun) (subscriber : SubscriberId) : Option BusRun :=
  if subscriber ∈ s.live then
    (s.channel.recv subscriber).map fun channel ↦ { s with channel }
  else none

def step (s : BusRun) : BusLabel → Option BusRun
  | .count task subscriber => s.count task subscriber
  | .openReceiver task => s.openReceiver task
  | .returnSubscriber task => s.returnSubscriber task
  | .uncount task subscriber => s.uncount task subscriber
  | .unlock task => s.unlock task
  | .closeReceiver task => s.closeReceiver task
  | .publish task event => s.publish task event
  | .check task => s.check task
  | .send task => s.send task
  | .recv subscriber => s.recv subscriber

end BusRun

/-! ## What should hold -/

/-- The count is right whenever it can be read, no drop finds it at zero, and every event has been
delivered to the subscribers that it is owed to. -/
structure BusMeets (owes : Published → SubscriberId → Prop) (s : BusRun) : Prop where
  counted : s.lock = none → s.subscriberCount = s.live.length
  distinct : s.live.Nodup
  in_range : s.underflowed = false
  delivered : ∀ record ∈ s.published, ∀ subscriber, owes record subscriber →
    ∃ number, record.number = some number ∧ s.channel.Delivers subscriber number record.event

/-- Owed to those that were there when the publish was called. -/
def OwedAtCall (record : Published) (subscriber : SubscriberId) : Prop := subscriber ∈ record.owed

/-- Owed to those that were there when the publish was called and had not been dropped when it
sent. -/
def OwedAtSend (record : Published) (subscriber : SubscriberId) : Prop :=
  subscriber ∈ record.owed ∧ subscriber ∈ record.present

/-! ## Where the subscribers are -/

/-- What an operation means for the subscribers: the one that it makes or drops, and whether it holds
the lock and has counted a subscriber that it has not returned. -/
structure Seat where
  subscriber : Option SubscriberId
  locked : Bool
  entering : Bool

def BusTask.seat : BusTask → Seat
  | .counted x | .opened x => { subscriber := some x, locked := true, entering := true }
  | .uncounted x => { subscriber := some x, locked := true, entering := false }
  | .closing x => { subscriber := some x, locked := false, entering := false }
  | .publishing .. | .sending .. => { subscriber := none, locked := false, entering := false }

/-- The seat of a task that uses the bus no more. -/
def Seat.idle : Seat where
  subscriber := none
  locked := false
  entering := false

def seat (tasks : KeyMap BusTaskId BusTask) (task : BusTaskId) : Seat :=
  ((tasks.get task).map BusTask.seat).getD .idle

section Seats

variable {tasks : KeyMap BusTaskId BusTask} {task : BusTaskId} {stage : BusTask}

theorem seat_of_get (h : tasks.get task = some stage) : seat tasks task = stage.seat := by
  simp [seat, h]

theorem seat_of_idle (h : tasks.get task = none) : seat tasks task = .idle := by
  simp [seat, h]

@[simp]
theorem seat_insert (other : BusTaskId) : seat (tasks.insert task stage) other =
    if other = task then stage.seat else seat tasks other := by
  rw [seat, KeyMap.get_insert]
  split_ifs <;> rfl

@[simp]
theorem seat_remove (other : BusTaskId) : seat (tasks.remove task) other =
    if other = task then .idle else seat tasks other := by
  rw [seat, KeyMap.get_remove]
  split_ifs <;> rfl

end Seats

namespace BusRun

/-- Has the holder of the lock counted a subscriber that it has not returned? -/
def entering (s : BusRun) : Bool := (s.lock.map fun task ↦ (seat s.tasks task).entering).getD false

/-- Each subscriber is in one place, and the count is right up to the holder of the lock. -/
structure Roster (s : BusRun) : Prop where
  holder : ∀ task, (seat s.tasks task).locked = true → s.lock = some task
  counted : s.subscriberCount = s.live.length + s.entering.toNat
  distinct : s.live.Nodup
  live_used : ∀ x ∈ s.live, x ∈ s.used
  engaged : ∀ task x, (seat s.tasks task).subscriber = some x → x ∈ s.used ∧ x ∉ s.live
  one_task : ∀ task task' x, (seat s.tasks task).subscriber = some x →
    (seat s.tasks task').subscriber = some x → task = task'
  in_range : s.underflowed = false

section Roster

variable {s t : BusRun} {task : BusTaskId} {x : SubscriberId}

/-- An operation that leaves every seat leaves the roster. -/
theorem Roster.of_seats (hs : s.Roster) (hseat : ∀ other, seat t.tasks other = seat s.tasks other)
    (hlock : t.lock = s.lock) (hcount : t.subscriberCount = s.subscriberCount)
    (hlive : t.live = s.live) (hused : t.used = s.used)
    (hunderflowed : t.underflowed = s.underflowed) : t.Roster where
  holder other := by rw [hseat, hlock]; exact hs.holder other
  counted := by
    rw [hcount, hlive, entering, hlock]
    simp only [hseat]
    exact hs.counted
  distinct := hlive ▸ hs.distinct
  live_used := by rw [hlive, hused]; exact hs.live_used
  engaged other y := by rw [hseat, hused, hlive]; exact hs.engaged other y
  one_task a b y := by rw [hseat, hseat]; exact hs.one_task a b y
  in_range := hunderflowed ▸ hs.in_range

/-- Without a holder of the lock the count is the number of subscribers. -/
theorem Roster.counted_of_unlocked (hs : s.Roster) (h : s.lock = none) :
    s.subscriberCount = s.live.length := by
  have hcounted := hs.counted
  rwa [entering, h] at hcounted

theorem Roster.seat_unlocked (hs : s.Roster) (h : s.lock = none) (other : BusTaskId) :
    (seat s.tasks other).locked = false := by
  rw [← Bool.not_eq_true]
  intro hlocked
  have hholder := hs.holder other hlocked
  rw [h] at hholder
  cases hholder

theorem Roster.seat_of_other (hs : s.Roster) (h : s.lock = some task) (other : BusTaskId)
    (hne : other ≠ task) : (seat s.tasks other).locked = false := by
  rw [← Bool.not_eq_true]
  intro hlocked
  exact hne (Option.some.inj ((hs.holder other hlocked).symm.trans h))

/-- No other task makes or drops the subscriber of a task. -/
theorem Roster.alone (hs : s.Roster) (h : (seat s.tasks task).subscriber = some x)
    (other : BusTaskId) (hne : other ≠ task) : (seat s.tasks other).subscriber ≠ some x :=
  fun hother ↦ hne (hs.one_task other task x hother h)

/-- No task makes or drops a subscriber that is in use, or one that has not been used. -/
theorem Roster.free (hs : s.Roster) (h : x ∈ s.live ∨ x ∉ s.used) (other : BusTaskId) :
    (seat s.tasks other).subscriber ≠ some x := by
  intro hother
  obtain ⟨hused, hlive⟩ := hs.engaged other x hother
  exact h.elim hlive fun hunused ↦ hunused hused

/-- In `subscribe` the count and the holder of the lock change together. -/
theorem roster_count (hs : s.Roster) (h : s.count task x = some t) : t.Roster := by
  simp only [count] at h
  split_ifs at h with henabled
  obtain ⟨hlock, -, hfresh⟩ := henabled
  obtain rfl := Option.some.inj h
  have hfree := hs.free (.inr hfresh)
  have hunlocked := hs.seat_unlocked hlock
  have hcounted := hs.counted_of_unlocked hlock
  exact {
    holder := by grind [seat_insert, BusTask.seat]
    counted := by simp [entering, BusTask.seat, hcounted]
    distinct := hs.distinct
    live_used := fun y hy ↦ List.mem_cons_of_mem _ (hs.live_used y hy)
    engaged := by grind [seat_insert, BusTask.seat, hs.engaged, hs.live_used]
    one_task := by grind [seat_insert, BusTask.seat, hs.engaged, hs.one_task]
    in_range := hs.in_range }

/-- The subscriber that is returned becomes a live one. -/
theorem roster_returnSubscriber (hs : s.Roster) (h : s.returnSubscriber task = some t) :
    t.Roster := by
  simp only [returnSubscriber] at h
  split at h
  · next y hstage =>
    obtain rfl := Option.some.inj h
    have hbefore := seat_of_get hstage
    have hlock : s.lock = some task := hs.holder task (by rw [hbefore]; rfl)
    have hothers := hs.seat_of_other hlock
    have hcounted := hs.counted
    simp only [entering, hlock, hbefore, BusTask.seat, Option.map_some, Option.getD_some,
      Bool.toNat_true] at hcounted
    have halone := hs.alone (x := y) (by rw [hbefore]; rfl)
    obtain ⟨hused, hnotLive⟩ := hs.engaged task y (by rw [hbefore]; rfl)
    exact {
      holder := by grind [seat_remove, Seat.idle]
      counted := hcounted
      distinct := List.nodup_cons.mpr ⟨hnotLive, hs.distinct⟩
      live_used := List.forall_mem_cons.mpr ⟨hused, hs.live_used⟩
      engaged := by grind [seat_remove, Seat.idle, hs.engaged]
      one_task := by grind [seat_remove, Seat.idle, hs.one_task]
      in_range := hs.in_range }
  · cases h

/-- A drop finds the subscriber that it uncounts. -/
theorem roster_uncount (hs : s.Roster) (h : s.uncount task x = some t) : t.Roster := by
  simp only [uncount] at h
  split_ifs at h with henabled
  obtain ⟨hlock, -, hlive⟩ := henabled
  obtain rfl := Option.some.inj h
  have hfree := hs.free (.inl hlive)
  have hunlocked := hs.seat_unlocked hlock
  have hcounted := hs.counted_of_unlocked hlock
  have hpos : 0 < s.subscriberCount := by
    rw [hcounted]
    exact List.length_pos_of_mem hlive
  have hlength := List.length_erase_of_mem hlive
  have hmem : ∀ y, y ∈ s.live.erase x ↔ y ≠ x ∧ y ∈ s.live := fun y ↦ hs.distinct.mem_erase_iff
  exact {
    holder := by grind [seat_insert, BusTask.seat]
    counted := by simp [entering, BusTask.seat, hcounted, hlength]
    distinct := hs.distinct.erase x
    live_used := fun y hy ↦ hs.live_used y ((hmem y).mp hy).2
    engaged := by grind [seat_insert, BusTask.seat, hs.engaged, hs.live_used]
    one_task := by grind [seat_insert, BusTask.seat, hs.engaged, hs.one_task]
    in_range := by simp [hs.in_range, hpos.ne'] }

theorem roster_unlock (hs : s.Roster) (h : s.unlock task = some t) : t.Roster := by
  simp only [unlock] at h
  split at h
  · next y hstage =>
    obtain rfl := Option.some.inj h
    have hbefore := seat_of_get hstage
    have hlock : s.lock = some task := hs.holder task (by rw [hbefore]; rfl)
    have hothers := hs.seat_of_other hlock
    have hcounted := hs.counted
    simp only [entering, hlock, hbefore, BusTask.seat, Option.map_some, Option.getD_some,
      Bool.toNat_false] at hcounted
    have halone := hs.alone (x := y) (by rw [hbefore]; rfl)
    obtain ⟨hused, hnotLive⟩ := hs.engaged task y (by rw [hbefore]; rfl)
    exact {
      holder := by grind [seat_insert, BusTask.seat]
      counted := hcounted
      distinct := hs.distinct
      live_used := hs.live_used
      engaged := by grind [seat_insert, BusTask.seat, hs.engaged]
      one_task := by grind [seat_insert, BusTask.seat, hs.one_task]
      in_range := hs.in_range }
  · cases h

theorem roster_closeReceiver (hs : s.Roster) (h : s.closeReceiver task = some t) : t.Roster := by
  simp only [closeReceiver] at h
  split at h
  · next y hstage =>
    obtain rfl := Option.some.inj h
    have hbefore := seat_of_get hstage
    have hentering : ∀ other, (seat (s.tasks.remove task) other).entering =
        (seat s.tasks other).entering := by
      grind [seat_remove, Seat.idle, BusTask.seat]
    exact {
      holder := by
        intro other hlocked
        rw [seat_remove] at hlocked
        split_ifs at hlocked
        · cases hlocked
        · exact hs.holder other hlocked
      counted := by
        simp only [entering, hentering]
        exact hs.counted
      distinct := hs.distinct
      live_used := hs.live_used
      engaged := by grind [seat_remove, Seat.idle, hs.engaged]
      one_task := by grind [seat_remove, Seat.idle, hs.one_task]
      in_range := hs.in_range }
  · cases h

/-- Setting the stage of a task to one of the same seat leaves every seat. -/
theorem seat_insert_same {tasks : KeyMap BusTaskId BusTask} {stage : BusTask}
    (h : seat tasks task = stage.seat) (other : BusTaskId) :
    seat (tasks.insert task stage) other = seat tasks other := by
  rw [seat_insert]
  split_ifs with hother
  · rw [hother, h]
  · rfl

theorem seat_remove_same {tasks : KeyMap BusTaskId BusTask} (h : seat tasks task = .idle)
    (other : BusTaskId) : seat (tasks.remove task) other = seat tasks other := by
  rw [seat_remove]
  split_ifs with hother
  · rw [hother, h]
  · rfl

theorem roster_openReceiver (hs : s.Roster) (h : s.openReceiver task = some t) : t.Roster := by
  simp only [openReceiver] at h
  split at h
  · next y hstage =>
    obtain rfl := Option.some.inj h
    have hseat : seat s.tasks task = (BusTask.opened y).seat := (seat_of_get hstage).trans rfl
    exact hs.of_seats (seat_insert_same hseat) rfl rfl rfl rfl rfl
  · cases h

theorem roster_publish {event : DisplayEvent} (hs : s.Roster)
    (h : s.publish task event = some t) : t.Roster := by
  simp only [publish] at h
  split_ifs at h with hidle
  obtain rfl := Option.some.inj h
  exact hs.of_seats (seat_insert_same (seat_of_idle hidle)) rfl rfl rfl rfl rfl

theorem roster_check (hs : s.Roster) (h : s.check task = some t) : t.Roster := by
  simp only [check] at h
  split at h
  · next event owed hstage =>
    have hseat : seat s.tasks task = (BusTask.sending event owed).seat :=
      (seat_of_get hstage).trans rfl
    split_ifs at h with hlock hcount
    · obtain rfl := Option.some.inj h
      exact hs.of_seats (seat_remove_same hseat) rfl rfl rfl rfl rfl
    · obtain rfl := Option.some.inj h
      exact hs.of_seats (seat_insert_same hseat) rfl rfl rfl rfl rfl
  · cases h

theorem roster_send (hs : s.Roster) (h : s.send task = some t) : t.Roster := by
  simp only [send] at h
  split at h
  · next event owed hstage =>
    obtain rfl := Option.some.inj h
    exact hs.of_seats (seat_remove_same (seat_of_get hstage)) rfl rfl rfl rfl rfl
  · cases h

theorem roster_recv (hs : s.Roster) (h : s.recv x = some t) : t.Roster := by
  simp only [recv] at h
  split_ifs at h with hlive
  obtain ⟨channel, -, rfl⟩ := Option.map_eq_some_iff.mp h
  exact hs.of_seats (fun _ ↦ rfl) rfl rfl rfl rfl rfl

/-- Every step keeps the roster. -/
theorem roster_step {label : BusLabel} (hs : s.Roster) (h : s.step label = some t) : t.Roster := by
  cases label with
  | count task x => exact roster_count hs h
  | openReceiver task => exact roster_openReceiver hs h
  | returnSubscriber task => exact roster_returnSubscriber hs h
  | uncount task x => exact roster_uncount hs h
  | unlock task => exact roster_unlock hs h
  | closeReceiver task => exact roster_closeReceiver hs h
  | publish task event => exact roster_publish hs h
  | check task => exact roster_check hs h
  | send task => exact roster_send hs h
  | recv x => exact roster_recv hs h

theorem roster_new (capacity : Nat) : (new capacity).Roster where
  holder task h := by cases h
  counted := rfl
  distinct := List.nodup_nil
  live_used x h := by cases h
  engaged task x h := by cases h
  one_task task task' x h := by cases h
  in_range := rfl

end Roster

/-! ## The receivers -/

/-- The receivers of the subscribers are open, and what is owed has been delivered. -/
structure Wired (s : BusRun) : Prop where
  live : ∀ x ∈ s.live, s.channel.Listening x
  opened : ∀ task x, s.tasks.get task = some (.opened x) → s.channel.Listening x
  unused : ∀ x ∉ s.used, s.channel.receivers.get x = none
  unopened : ∀ task x, s.tasks.get task = some (.counted x) → s.channel.receivers.get x = none
  delivered : ∀ record ∈ s.published, ∀ x, OwedAtSend record x →
    ∃ number, record.number = some number ∧ s.channel.Delivers x number record.event

section Wired

variable {s t : BusRun} {task : BusTaskId} {x : SubscriberId}

theorem wired_count (hs : s.Wired) (h : s.count task x = some t) : t.Wired := by
  simp only [count] at h
  split_ifs at h with henabled
  obtain ⟨-, -, hfresh⟩ := henabled
  obtain rfl := Option.some.inj h
  exact {
    live := hs.live
    opened := by
      intro other y hget
      rcases KeyMap.get_insert_eq_some.mp hget with ⟨-, hstage⟩ | ⟨-, hold⟩
      · cases hstage
      · exact hs.opened other y hold
    unused := fun y hy ↦ hs.unused y fun hused ↦ hy (List.mem_cons_of_mem _ hused)
    unopened := by
      intro other y hget
      rcases KeyMap.get_insert_eq_some.mp hget with ⟨-, hstage⟩ | ⟨-, hold⟩
      · cases hstage
        exact hs.unused _ hfresh
      · exact hs.unopened other y hold
    delivered := hs.delivered }

theorem wired_openReceiver (hr : s.Roster) (hs : s.Wired) (h : s.openReceiver task = some t) :
    t.Wired := by
  simp only [openReceiver] at h
  split at h
  · next y hstage =>
    obtain rfl := Option.some.inj h
    have hbefore := seat_of_get hstage
    have hnone := hs.unopened task y hstage
    have halone := hr.alone (x := y) (by rw [hbefore]; rfl)
    obtain ⟨hused, hnotLive⟩ := hr.engaged task y (by rw [hbefore]; rfl)
    exact {
      live := fun z hz ↦ (hs.live z hz).subscribe fun hsame ↦ hnotLive (hsame ▸ hz)
      opened := by
        intro other z hget
        rcases KeyMap.get_insert_eq_some.mp hget with ⟨-, hnew⟩ | ⟨hother, hold⟩
        · cases hnew
          exact Channel.listening_subscribe _ _
        · refine (hs.opened other z hold).subscribe ?_
          rintro rfl
          exact halone other hother (by rw [seat_of_get hold]; rfl)
      unused := by
        intro z hz
        have hne : z ≠ y := by
          rintro rfl
          exact hz hused
        exact (KeyMap.get_insert_of_ne _ _ hne).trans (hs.unused z hz)
      unopened := by
        intro other z hget
        rcases KeyMap.get_insert_eq_some.mp hget with ⟨-, hnew⟩ | ⟨hother, hold⟩
        · cases hnew
        · refine (KeyMap.get_insert_of_ne _ _ ?_).trans (hs.unopened other z hold)
          rintro rfl
          exact halone other hother (by rw [seat_of_get hold]; rfl)
      delivered := by
        intro record hrecord z howed
        obtain ⟨number, hnumber, hdelivers⟩ := hs.delivered record hrecord z howed
        refine ⟨number, hnumber, hdelivers.subscribe ?_⟩
        rintro rfl
        obtain ⟨-, receiver, hget, -⟩ := hdelivers
        rw [hnone] at hget
        cases hget }
  · cases h

/-- A step that only ends or changes an operation of no subscriber, or drops a subscriber, leaves the
receivers as they are. -/
theorem Wired.of_stages (hs : s.Wired) (hchannel : t.channel = s.channel)
    (hused : t.used = s.used) (hpublished : t.published = s.published)
    (hlive : ∀ y ∈ t.live, s.channel.Listening y)
    (hstages : ∀ other stage, t.tasks.get other = some stage → stage.seat.entering = true →
      s.tasks.get other = some stage) : t.Wired where
  live := by rwa [hchannel]
  opened other y hget := by
    rw [hchannel]
    exact hs.opened other y (hstages other _ hget rfl)
  unused := by
    rw [hchannel, hused]
    exact hs.unused
  unopened other y hget := by
    rw [hchannel]
    exact hs.unopened other y (hstages other _ hget rfl)
  delivered := by
    rw [hchannel, hpublished]
    exact hs.delivered

theorem stages_of_insert {tasks : KeyMap BusTaskId BusTask} {stage : BusTask}
    (h : stage.seat.entering = false) (other : BusTaskId) (stage' : BusTask)
    (hget : (tasks.insert task stage).get other = some stage')
    (hentering : stage'.seat.entering = true) : tasks.get other = some stage' := by
  rcases KeyMap.get_insert_eq_some.mp hget with ⟨-, rfl⟩ | ⟨-, hold⟩
  · rw [h] at hentering
    cases hentering
  · exact hold

theorem stages_of_remove {tasks : KeyMap BusTaskId BusTask} (other : BusTaskId) (stage' : BusTask)
    (hget : (tasks.remove task).get other = some stage')
    (_ : stage'.seat.entering = true) : tasks.get other = some stage' :=
  (KeyMap.get_remove_eq_some.mp hget).2

theorem wired_returnSubscriber (hs : s.Wired) (h : s.returnSubscriber task = some t) :
    t.Wired := by
  simp only [returnSubscriber] at h
  split at h
  · next y hstage =>
    obtain rfl := Option.some.inj h
    exact hs.of_stages rfl rfl rfl
      (List.forall_mem_cons.mpr ⟨hs.opened task y hstage, hs.live⟩) stages_of_remove
  · cases h

theorem wired_uncount (hs : s.Wired) (h : s.uncount task x = some t) : t.Wired := by
  simp only [uncount] at h
  split_ifs at h with henabled
  obtain rfl := Option.some.inj h
  exact hs.of_stages rfl rfl rfl (fun y hy ↦ hs.live y (List.mem_of_mem_erase hy))
    (stages_of_insert rfl)

theorem wired_unlock (hs : s.Wired) (h : s.unlock task = some t) : t.Wired := by
  simp only [unlock] at h
  split at h
  · next y hstage =>
    obtain rfl := Option.some.inj h
    exact hs.of_stages rfl rfl rfl hs.live (stages_of_insert rfl)
  · cases h

/-- Only the receiver of the dropped subscriber is closed. -/
theorem wired_closeReceiver (hr : s.Roster) (hs : s.Wired) (h : s.closeReceiver task = some t) :
    t.Wired := by
  simp only [closeReceiver] at h
  split at h
  · next y hstage =>
    obtain rfl := Option.some.inj h
    have hbefore := seat_of_get hstage
    obtain ⟨-, hnotLive⟩ := hr.engaged task y (by rw [hbefore]; rfl)
    have halone := hr.alone (x := y) (by rw [hbefore]; rfl)
    exact {
      live := fun z hz ↦ (hs.live z hz).close fun hsame ↦ hnotLive (hsame ▸ hz)
      opened := by
        intro other z hget
        obtain ⟨hother, hold⟩ := KeyMap.get_remove_eq_some.mp hget
        refine (hs.opened other z hold).close ?_
        rintro rfl
        exact halone other hother (by rw [seat_of_get hold]; rfl)
      unused := hs.unused
      unopened := fun other z hget ↦ hs.unopened other z (stages_of_remove other _ hget rfl)
      delivered := hs.delivered }
  · cases h

theorem wired_publish {event : DisplayEvent} (hs : s.Wired) (h : s.publish task event = some t) :
    t.Wired := by
  simp only [publish] at h
  split_ifs at h with hidle
  obtain rfl := Option.some.inj h
  exact hs.of_stages rfl rfl rfl hs.live (stages_of_insert rfl)

/-- A publish that finds the count at zero owes nothing. -/
theorem wired_check (hr : s.Roster) (hs : s.Wired) (h : s.check task = some t) : t.Wired := by
  simp only [check] at h
  split at h
  · next event owed hstage =>
    split_ifs at h with hlock hcount
    · obtain rfl := Option.some.inj h
      have hnobody : s.live = [] := by
        rw [hr.counted_of_unlocked (not_not.mp hlock)] at hcount
        exact List.length_eq_zero_iff.mp hcount
      have hrest : Wired { s with tasks := s.tasks.remove task } :=
        hs.of_stages rfl rfl rfl hs.live stages_of_remove
      exact { hrest with
        delivered := by
          refine List.forall_mem_cons.mpr ⟨?_, hs.delivered⟩
          rintro y ⟨-, hpresent⟩
          rw [hnobody] at hpresent
          cases hpresent }
    · obtain rfl := Option.some.inj h
      exact hs.of_stages rfl rfl rfl hs.live (stages_of_insert rfl)
  · cases h

/-- An event is delivered to every subscriber that is there when it is sent. -/
theorem wired_send (hs : s.Wired) (h : s.send task = some t) : t.Wired := by
  simp only [send] at h
  split at h
  · next event owed hstage =>
    obtain rfl := Option.some.inj h
    exact {
      live := fun y hy ↦ (hs.live y hy).send
      opened := fun other y hget ↦ (hs.opened other y (stages_of_remove other _ hget rfl)).send
      unused := by
        intro y hy
        rw [Channel.receivers_send]
        exact hs.unused y hy
      unopened := by
        intro other y hget
        rw [Channel.receivers_send]
        exact hs.unopened other y (stages_of_remove other _ hget rfl)
      delivered := by
        refine List.forall_mem_cons.mpr ⟨?_, fun record hrecord y howed ↦ ?_⟩
        · rintro y ⟨-, hpresent⟩
          have hlistening := hs.live y hpresent
          refine ⟨s.channel.sent.length, ?_, Channel.delivers_send hlistening⟩
          rw [Channel.send_of_listening hlistening]
          rfl
        · obtain ⟨number, hnumber, hdelivers⟩ := hs.delivered record hrecord y howed
          exact ⟨number, hnumber, hdelivers.send⟩ }
  · cases h

theorem wired_recv (hs : s.Wired) (h : s.recv x = some t) : t.Wired := by
  simp only [recv] at h
  split_ifs at h with hlive
  obtain ⟨channel, hrecv, rfl⟩ := Option.map_eq_some_iff.mp h
  exact {
    live := fun y hy ↦ (hs.live y hy).recv hrecv
    opened := fun other y hget ↦ (hs.opened other y hget).recv hrecv
    unused := fun y hy ↦ Channel.get_recv_eq_none hrecv (hs.unused y hy)
    unopened := fun other y hget ↦ Channel.get_recv_eq_none hrecv (hs.unopened other y hget)
    delivered := by
      intro record hrecord y howed
      obtain ⟨number, hnumber, hdelivers⟩ := hs.delivered record hrecord y howed
      exact ⟨number, hnumber, hdelivers.recv hrecv⟩ }

/-- Every step keeps the receivers that are needed. -/
theorem wired_step {label : BusLabel} (hr : s.Roster) (hs : s.Wired)
    (h : s.step label = some t) : t.Wired := by
  cases label with
  | count task x => exact wired_count hs h
  | openReceiver task => exact wired_openReceiver hr hs h
  | returnSubscriber task => exact wired_returnSubscriber hs h
  | uncount task x => exact wired_uncount hs h
  | unlock task => exact wired_unlock hs h
  | closeReceiver task => exact wired_closeReceiver hr hs h
  | publish task event => exact wired_publish hs h
  | check task => exact wired_check hr hs h
  | send task => exact wired_send hs h
  | recv x => exact wired_recv hs h

theorem wired_new (capacity : Nat) : (new capacity).Wired where
  live x h := by cases h
  opened task x h := by cases h
  unused x _ := rfl
  unopened task x h := by cases h
  delivered record h := by cases h

end Wired

/-! ## Every interleaving -/

theorem busMeets (s : BusRun) (hr : s.Roster) (hs : s.Wired) : BusMeets OwedAtSend s where
  counted := hr.counted_of_unlocked
  distinct := hr.distinct
  in_range := hr.in_range
  delivered := hs.delivered

/-- In every interleaving the count is the number of subscribers, and an event is delivered to every
subscriber that was there when its publish was called and is still there when it is sent. -/
theorem live_subscribers_are_served (capacity : Nat) (labels : List BusLabel) :
    Run.Always step (BusMeets OwedAtSend) (new capacity) labels := by
  apply Run.always_of_throughout (fun s ↦ s.Roster ∧ s.Wired)
  · exact fun s hs ↦ busMeets s hs.1 hs.2
  · exact fun s label t hs _ h ↦ ⟨roster_step hs.1 h, wired_step hs.1 hs.2 h⟩
  · exact Run.throughout_true _ _
  · exact ⟨roster_new capacity, wired_new capacity⟩

end BusRun

/-- The event that a phone has gone. -/
def samplePhoneGone : DisplayEvent where
  kind := "phone.offline"
  deviceId := .nil
  envelopeId := .nil
  timestamp := 0
  payload := .null
  summary := .null

/-- A subscriber is dropped between the look at the count and the send. -/
def droppedBeforeSend : List BusLabel :=
  [.count 0 0, .openReceiver 0, .returnSubscriber 0, .publish 1 samplePhoneGone, .check 1,
    .uncount 2 0, .unlock 2, .closeReceiver 2, .send 1]

/-- The event is not delivered to a subscriber that was there when its publish was called. -/
theorem dropped_subscriber_misses_event : ¬ ∀ capacity labels,
    Run.Always BusRun.step (BusMeets OwedAtCall) (.new capacity) labels := by
  intro h
  have hrun : ∃ t, Run.exec BusRun.step (.new 1024) droppedBeforeSend = some t ∧
      ∃ record ∈ t.published, record.owed = [0] ∧ record.number = none :=
    ⟨_, rfl, _, List.mem_cons_self, rfl, rfl⟩
  obtain ⟨t, hexec, record, hrecord, howed, hnumber⟩ := hrun
  have hmeets := (h 1024 droppedBeforeSend).last hexec
  have howes : OwedAtCall record 0 := by
    rw [OwedAtCall, howed]
    exact List.mem_cons_self
  obtain ⟨number, hsent, -⟩ := hmeets.delivered record hrecord 0 howes
  rw [hnumber] at hsent
  cases hsent

end PhoneBridge.MessageCenter
