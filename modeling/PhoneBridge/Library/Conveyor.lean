import Mathlib.Data.List.Infix
import Mathlib.Data.List.Nodup
import Mathlib.Data.List.Basic

/-!
# Conveyors

Items enter a chain of queues at one end and leave it at the other, oldest first. What has left
together with what is still carried is a front part of what has entered, and all of it while the
conveyor is intact. When several conveyors are loaded from one log, each has a lane of it.
-/

namespace PhoneBridge.Library.Conveyor

variable {κ α β : Type*}

/-- What has `left` a conveyor and what it has `carried` so far, oldest first. -/
structure Conveys (intact : Prop) (entered left carried : List α) : Prop where
  ordered : left ++ carried <+: entered
  complete : intact → left ++ carried = entered

namespace Conveys

variable {intact intact' : Prop} {entered left left' carried carried' : List α} {item : α}

theorem start (intact : Prop) : Conveys intact ([] : List α) [] [] :=
  ⟨List.prefix_refl _, fun _ ↦ rfl⟩

theorem of_eq (h : left ++ carried = entered) : Conveys intact entered left carried :=
  ⟨h ▸ List.prefix_refl _, fun _ ↦ h⟩

/-- An item enters an intact conveyor. -/
theorem enter (h : Conveys intact entered left carried) (hintact : intact) (item : α) :
    Conveys intact (entered ++ [item]) left (carried ++ [item]) := by
  refine of_eq ?_
  rw [← List.append_assoc, h.complete hintact]

/-- A broken conveyor takes no more items. -/
theorem refuse (h : Conveys intact entered left carried) (hbroken : ¬ intact')
    (more : List α) : Conveys intact' (entered ++ more) left carried :=
  ⟨h.ordered.trans (List.prefix_append _ _), fun hintact ↦ absurd hintact hbroken⟩

/-- Items move along, and leave. -/
theorem move (h : Conveys intact entered left carried)
    (hmoved : left' ++ carried' = left ++ carried) : Conveys intact entered left' carried' :=
  ⟨hmoved ▸ h.ordered, fun hintact ↦ hmoved.trans (h.complete hintact)⟩

/-- The conveyor breaks, and the newest of its items are dropped. -/
theorem drop (h : Conveys intact entered left carried) (hbroken : ¬ intact')
    (hkept : carried' <+: carried) : Conveys intact' entered left carried' :=
  ⟨((List.prefix_append_right_inj left).mpr hkept).trans h.ordered,
    fun hintact ↦ absurd hintact hbroken⟩

theorem mono (h : Conveys intact entered left carried) (himp : intact' → intact) :
    Conveys intact' entered left carried :=
  ⟨h.ordered, fun hintact ↦ h.complete (himp hintact)⟩

/-- What has left came in first. -/
theorem left_prefix (h : Conveys intact entered left carried) : left <+: entered :=
  (List.prefix_append left carried).trans h.ordered

end Conveys

/-! ## Lanes -/

variable [DecidableEq κ] {log : List (κ × α)} {k other : κ} {item : α}

/-- What a log gives to one of its conveyors. -/
def lane (log : List (κ × α)) (k : κ) : List α :=
  log.filterMap fun entry ↦ if entry.1 = k then some entry.2 else none

@[simp]
theorem lane_append_self (log : List (κ × α)) (k : κ) (items : List α) :
    lane (log ++ items.map (k, ·)) k = lane log k ++ items := by
  simp [lane, List.filterMap_map]

theorem lane_append_of_ne (h : k ≠ other) (items : List α) :
    lane (log ++ items.map (other, ·)) k = lane log k := by
  simp [lane, List.filterMap_map, h.symm]

@[simp]
theorem lane_snoc_self (log : List (κ × α)) (k : κ) (item : α) :
    lane (log ++ [(k, item)]) k = lane log k ++ [item] :=
  lane_append_self log k [item]

theorem lane_snoc_of_ne (h : k ≠ other) : lane (log ++ [(other, item)]) k = lane log k :=
  lane_append_of_ne h [item]

/-- A lane keeps the order of the log. -/
theorem lane_sublist (log : List (κ × α)) (k : κ) : (lane log k).Sublist (log.map Prod.snd) := by
  induction log with
  | nil => exact List.Sublist.slnil
  | cons entry log ih =>
    by_cases h : entry.1 = k
    · have hlane : lane (entry :: log) k = entry.2 :: lane log k := by simp [lane, h]
      rw [hlane]
      exact ih.cons_cons _
    · have hlane : lane (entry :: log) k = lane log k := by simp [lane, h]
      rw [hlane]
      exact ih.cons _

theorem mem_lane : item ∈ lane log k ↔ (k, item) ∈ log := by
  simp [lane]

/-- When no item is in the log twice, none is in two lanes. -/
theorem eq_of_mem_lanes {f : α → β} {item' : α} (hlog : (log.map fun entry ↦ f entry.2).Nodup)
    (h : item ∈ lane log k) (h' : item' ∈ lane log other) (hsame : f item = f item') :
    k = other := by
  have hentry : (k, item) = (other, item') :=
    List.inj_on_of_nodup_map hlog (mem_lane.mp h) (mem_lane.mp h') hsame
  exact congrArg Prod.fst hentry

/-- A key that the log does not name has an empty lane. -/
theorem lane_eq_nil (h : k ∉ log.map Prod.fst) : lane log k = [] := by
  refine List.filterMap_eq_nil_iff.mpr fun entry hentry ↦ if_neg ?_
  rintro rfl
  exact h (List.mem_map_of_mem hentry)

end PhoneBridge.Library.Conveyor
