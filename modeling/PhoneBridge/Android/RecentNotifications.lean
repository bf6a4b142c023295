import PhoneBridge.Android.Payloads
import PhoneBridge.Library.Recent
import PhoneBridge.Library.Run
import PhoneBridge.Library.Text

/-!
# The recent notifications of the floating console

`RecentNotificationsCache.kt` and the panel that reads it. A push evicts at most one notification,
a change of the capacity evicts none, and the panel takes the first rows of a list whose first
entries are the oldest.
-/

namespace PhoneBridge.Android

open Library

/-- A notification object in memory: objects with the same contents are told apart by the number of
the push that brought them. -/
structure Posted where
  serial : Nat
  payload : NotificationReceivedPayload
  deriving DecidableEq

/-- In-memory ring buffer of the last `capacity` notifications. -/
structure RecentNotificationsCache where
  buffer : List Posted := []
  capacity : Nat := 16

namespace RecentNotificationsCache

/-- Add a notification; `none` when `removeFirst` finds the buffer empty and throws. -/
def push (cache : RecentNotificationsCache) (payload : Posted) :
    Option RecentNotificationsCache := do
  let buffer ←
    if cache.capacity ≤ cache.buffer.length then cache.buffer.tail? else some cache.buffer
  return { cache with buffer := buffer ++ [payload] }

def snapshot (cache : RecentNotificationsCache) : List Posted := cache.buffer

def clear (cache : RecentNotificationsCache) : RecentNotificationsCache :=
  { cache with buffer := [] }

theorem push_of_room {cache : RecentNotificationsCache} (payload : Posted)
    (h : cache.buffer.length < cache.capacity) :
    cache.push payload = some { cache with buffer := cache.buffer ++ [payload] } := by
  rw [push, if_neg h.not_ge]
  rfl

theorem push_of_full {cache : RecentNotificationsCache} (payload : Posted)
    (h : cache.capacity ≤ cache.buffer.length) (hbuffer : cache.buffer ≠ []) :
    cache.push payload = some { cache with buffer := cache.buffer.tail ++ [payload] } := by
  obtain ⟨oldest, rest, hcons⟩ := List.exists_cons_of_ne_nil hbuffer
  rw [push, if_pos h, hcons]
  rfl

theorem push_of_nothing {cache : RecentNotificationsCache} (payload : Posted)
    (hcapacity : cache.capacity = 0) (hbuffer : cache.buffer = []) :
    cache.push payload = none := by
  rw [push, if_pos (by omega), hbuffer]
  rfl

/-- A push slides the window of a cache that holds at least one notification. -/
theorem push_window {cache : RecentNotificationsCache} {pushed : List Posted} (payload : Posted)
    (hwindow : cache.buffer = pushed.rtake cache.capacity) (hcapacity : 1 ≤ cache.capacity) :
    cache.push payload =
      some { cache with buffer := (pushed ++ [payload]).rtake cache.capacity } := by
  obtain ⟨rest, hrest⟩ := Nat.exists_eq_add_of_le' hcapacity
  have hlength : cache.buffer.length = min cache.capacity pushed.length := by
    rw [hwindow, length_rtake]
  by_cases hfull : rest < pushed.length
  · have hbuffer : cache.buffer ≠ [] := by
      apply List.ne_nil_of_length_pos
      omega
    rw [push_of_full payload (by omega) hbuffer, hwindow, hrest, tail_rtake hfull,
      List.rtake_concat_succ]
  · have hall : pushed.rtake rest = pushed.rtake (rest + 1) := by
      rw [rtake_eq_rtake_iff]
      omega
    rw [push_of_room payload (by omega), hwindow, hrest, List.rtake_concat_succ, hall]

end RecentNotificationsCache

/-- The text of a row: the title, or the app when the title is blank. -/
def rowText (n : NotificationReceivedPayload) : String :=
  let title := if Text.isBlank n.title then n.appName.getD n.packageName else n.title
  s!"• {title}"

/-- The rows of the panel, each with the notification that it shows. -/
def panelRows (recent : List Posted) : List (Posted × String) :=
  (recent.take 5).map fun n ↦ (n, rowText n.payload)

/-! ## Runs of the cache -/

/-- The cache, the notifications pushed since the last clear, the pushes so far, and whether an
operation has thrown. -/
structure CacheWatch where
  cache : RecentNotificationsCache := {}
  pushed : List Posted := []
  pushes : Nat := 0
  threw : Bool := false

inductive CacheOp
  | push (payload : NotificationReceivedPayload)
  | clear
  | setCapacity (capacity : Nat)

namespace CacheWatch

def step (w : CacheWatch) : CacheOp → Option CacheWatch
  | .push payload =>
    let posted := { serial := w.pushes, payload }
    let w := { w with pushed := w.pushed ++ [posted], pushes := w.pushes + 1 }
    match w.cache.push posted with
    | some cache => some { w with cache }
    | none => some { w with threw := true }
  | .clear => some { w with cache := w.cache.clear, pushed := [] }
  | .setCapacity capacity => some { w with cache := { w.cache with capacity } }

/-- No operation has thrown, the snapshot has the newest notifications in push order, and the panel
shows the five newest of them. -/
structure SlidingWindow (w : CacheWatch) : Prop where
  quiet : w.threw = false
  window : w.cache.snapshot = w.pushed.rtake (min w.cache.capacity w.pushed.length)
  panel : ((panelRows w.cache.snapshot).map Prod.fst).Perm (w.cache.snapshot.rtake 5)

/-- A push finds room for one notification at least and leaves no more of them than the panel has
rows; a new capacity keeps as many notifications as the old one. -/
def Fits (w : CacheWatch) : CacheOp → Prop
  | .push _ => 1 ≤ w.cache.capacity ∧ min w.cache.capacity (w.pushed.length + 1) ≤ 5
  | .clear => True
  | .setCapacity capacity =>
    min capacity w.pushed.length = min w.cache.capacity w.pushed.length

theorem map_fst_panelRows (recent : List Posted) :
    (panelRows recent).map Prod.fst = recent.take 5 := by
  simp [panelRows, Function.comp_def]

/-- What every run keeps as long as its steps fit. -/
structure Inv (w : CacheWatch) : Prop where
  quiet : w.threw = false
  window : w.cache.buffer = w.pushed.rtake w.cache.capacity
  few : min w.cache.capacity w.pushed.length ≤ 5
  distinct : w.pushed.Nodup
  fresh : ∀ posted ∈ w.pushed, posted.serial < w.pushes

variable {w v : CacheWatch}

/-- The panel shows the five newest exactly when there are no more than five. -/
theorem slidingWindow_iff (hquiet : w.threw = false) (hdistinct : w.pushed.Nodup)
    (hwindow : w.cache.buffer = w.pushed.rtake w.cache.capacity) :
    w.SlidingWindow ↔ min w.cache.capacity w.pushed.length ≤ 5 := by
  have hnodup : w.cache.snapshot.Nodup := by
    rw [RecentNotificationsCache.snapshot, hwindow]
    exact hdistinct.sublist (rtake_suffix _ _).sublist
  have hlength : w.cache.snapshot.length = min w.cache.capacity w.pushed.length := by
    rw [RecentNotificationsCache.snapshot, hwindow, length_rtake]
  rw [← hlength, ← take_perm_rtake_iff hnodup (by decide), ← map_fst_panelRows]
  constructor
  · exact fun h ↦ h.panel
  · exact fun h ↦ ⟨hquiet, by rw [rtake_min_length]; exact hwindow, h⟩

theorem Inv.slidingWindow (h : w.Inv) : w.SlidingWindow :=
  (slidingWindow_iff h.quiet h.distinct h.window).mpr h.few

/-- What a push leads to when there is room for one notification at least. -/
def afterPush (w : CacheWatch) (payload : NotificationReceivedPayload) : CacheWatch :=
  let pushed := w.pushed ++ [{ serial := w.pushes, payload }]
  { w with
    cache := { w.cache with buffer := pushed.rtake w.cache.capacity }
    pushed
    pushes := w.pushes + 1 }

theorem Inv.step_push (h : w.Inv) (payload : NotificationReceivedPayload)
    (hcapacity : 1 ≤ w.cache.capacity) : w.step (.push payload) = some (w.afterPush payload) := by
  rw [CacheWatch.step, RecentNotificationsCache.push_window _ h.window hcapacity]
  rfl

theorem Inv.distinct_afterPush (h : w.Inv) (payload : NotificationReceivedPayload) :
    (w.afterPush payload).pushed.Nodup := by
  have hnew : { serial := w.pushes, payload } ∉ w.pushed :=
    fun hold ↦ lt_irrefl _ (h.fresh _ hold)
  exact List.nodup_append_comm.mp (List.nodup_cons.mpr ⟨hnew, h.distinct⟩)

theorem Inv.step (h : w.Inv) {op : CacheOp} (hfits : w.Fits op) (hstep : w.step op = some v) :
    v.Inv := by
  cases op with
  | push payload =>
    obtain ⟨hcapacity, hfew⟩ := hfits
    rw [h.step_push payload hcapacity] at hstep
    obtain rfl := Option.some.inj hstep
    refine ⟨h.quiet, rfl, ?_, h.distinct_afterPush payload, ?_⟩
    · simpa [afterPush] using hfew
    · intro posted hposted
      rcases List.mem_append.mp hposted with hold | hnew
      · exact (h.fresh posted hold).trans (Nat.lt_succ_self _)
      · rw [List.mem_singleton.mp hnew]
        exact Nat.lt_succ_self _
  | clear =>
    obtain rfl := Option.some.inj hstep
    exact ⟨h.quiet, by simp [RecentNotificationsCache.clear], by simp, .nil, by simp⟩
  | setCapacity capacity =>
    obtain rfl := Option.some.inj hstep
    refine ⟨h.quiet, ?_, ?_, h.distinct, h.fresh⟩
    · exact h.window.trans (rtake_eq_rtake_iff.mpr hfits.symm)
    · exact (show min capacity w.pushed.length = _ from hfits).trans_le h.few

/-- A step that does not fit breaks the window at once. -/
theorem Inv.break (h : w.Inv) {op : CacheOp} (hfits : ¬ w.Fits op) :
    ∃ v, w.step op = some v ∧ ¬ v.SlidingWindow := by
  cases op with
  | push payload =>
    by_cases hcapacity : 1 ≤ w.cache.capacity
    · refine ⟨_, h.step_push payload hcapacity, ?_⟩
      rw [slidingWindow_iff (w := w.afterPush payload) h.quiet (h.distinct_afterPush payload) rfl]
      intro hfew
      exact hfits ⟨hcapacity, by simpa [afterPush] using hfew⟩
    · have hzero : w.cache.capacity = 0 := Nat.lt_one_iff.mp (not_le.mp hcapacity)
      have hbuffer : w.cache.buffer = [] := by rw [h.window, hzero, List.rtake_zero]
      rw [CacheWatch.step, RecentNotificationsCache.push_of_nothing _ hzero hbuffer]
      refine ⟨_, rfl, fun hsliding ↦ ?_⟩
      cases hsliding.quiet
  | clear => exact absurd trivial hfits
  | setCapacity capacity =>
    refine ⟨_, rfl, fun hsliding ↦ hfits ?_⟩
    have hwindow : w.cache.buffer = w.pushed.rtake (min capacity w.pushed.length) :=
      hsliding.window
    rw [rtake_min_length, h.window, rtake_eq_rtake_iff] at hwindow
    exact hwindow.symm

/-- The cache is a sliding window with a panel of its newest notifications in exactly the runs whose
steps all fit. -/
theorem sliding_window_iff (ops : List CacheOp) :
    Run.Always step SlidingWindow {} ops ↔ Run.Throughout step Fits {} ops := by
  refine Run.always_iff_throughout Inv (fun _ ↦ Inv.slidingWindow) (fun _ _ _ h ↦ h.step)
    (fun _ _ h ↦ h.break) ?_
  exact ⟨rfl, rfl, by decide, .nil, by simp⟩

/-- A notification for examples. -/
def sampleNotification : NotificationReceivedPayload where
  id := "n"
  packageName := "app"
  title := "title"
  content := "content"
  postedAt := 0

/-- Six notifications, with the capacity that the cache starts with. -/
def sixPushes : List CacheOp := List.replicate 6 (.push sampleNotification)

theorem panel_hides_newest :
    (Run.exec step {} sixPushes).map
        (fun w ↦ (panelRows w.cache.snapshot).map fun row ↦ row.1.serial) = some [0, 1, 2, 3, 4] ∧
      ¬ Run.Always step SlidingWindow {} sixPushes := by
  refine ⟨by decide, fun halways ↦ ?_⟩
  have hpanel := (halways.last rfl).panel
  revert hpanel
  decide

end CacheWatch

end PhoneBridge.Android
