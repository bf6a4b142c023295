import Mathlib.Data.Finset.Card
import Mathlib.Order.Interval.Finset.Nat

/-!
# Tickets

Places at which one visitor at a time can wait, and takers who take the waiting visitor away. The
visitors of a place are numbered as they come, and a new one displaces the one who waits. Nobody is
taken twice, and no more are taken at a place than have come to it.
-/

namespace PhoneBridge.Library

/-- How many visitors have come to each place, where the last of them still waits, and which visitors
have been taken by whom. -/
structure Tickets (κ τ : Type*) where
  arrivals : κ → Nat
  waiting : κ → Bool
  taken : List ((κ × Nat) × τ)
  numbered : ∀ entry ∈ taken, 0 < entry.1.2 ∧ entry.1.2 ≤ arrivals entry.1.1
  positive : ∀ key, waiting key = true → 0 < arrivals key
  free : ∀ key, waiting key = true → (key, arrivals key) ∉ taken.map Prod.fst
  once : (taken.map Prod.fst).Nodup

namespace Tickets

variable {κ τ : Type*}

section Taken

variable (t : Tickets κ τ) {place : κ} {taker : τ}

/-- A visitor is taken by one taker. -/
theorem taker_unique {visitor : κ × Nat} {taker other : τ} (h : (visitor, taker) ∈ t.taken)
    (hother : (visitor, other) ∈ t.taken) : taker = other :=
  congrArg Prod.snd (List.inj_on_of_nodup_map t.once h hother rfl)

/-- A visitor who has been taken does not wait. -/
theorem not_waiting_of_taken {number : Nat} (h : ((place, number), taker) ∈ t.taken) :
    ¬ (t.waiting place = true ∧ t.arrivals place = number) := by
  rintro ⟨hwaiting, rfl⟩
  exact t.free place hwaiting (List.mem_map_of_mem h)

/-- Distinct visitors of a place who have been taken are no more than have come to it. -/
theorem length_le_arrivals {numbers : List Nat} (hdistinct : numbers.Nodup)
    (htaken : ∀ number ∈ numbers, (place, number) ∈ t.taken.map Prod.fst) :
    numbers.length ≤ t.arrivals place := by
  have hrange : numbers.toFinset ⊆ Finset.Icc 1 (t.arrivals place) := by
    intro number hnumber
    obtain ⟨entry, hentry, heq⟩ := List.mem_map.mp (htaken number (List.mem_toFinset.mp hnumber))
    have hbounds := t.numbered entry hentry
    rw [heq] at hbounds
    exact Finset.mem_Icc.mpr hbounds
  calc
    numbers.length = numbers.toFinset.card := (List.toFinset_card_of_nodup hdistinct).symm
    _ ≤ (Finset.Icc 1 (t.arrivals place)).card := Finset.card_le_card hrange
    _ = t.arrivals place := by simp

end Taken

variable [DecidableEq κ]

/-- Nobody has been taken; the first visitors of some places are waiting. -/
def start (waiting : κ → Bool) : Tickets κ τ where
  arrivals key := if waiting key then 1 else 0
  waiting
  taken := []
  numbered := by simp
  positive := fun key hwaiting ↦ by simp [hwaiting]
  free := by simp
  once := .nil

/-- A visitor comes and displaces the one who waits. -/
def arrive (t : Tickets κ τ) (place : κ) : Tickets κ τ where
  arrivals key := if key = place then t.arrivals key + 1 else t.arrivals key
  waiting key := if key = place then true else t.waiting key
  taken := t.taken
  numbered := by
    intro entry hentry
    obtain ⟨hpositive, hbound⟩ := t.numbered entry hentry
    refine ⟨hpositive, ?_⟩
    split <;> omega
  positive := by
    intro key hwaiting
    split at hwaiting
    · next hplace => simp [hplace]
    · next hother => simpa [hother] using t.positive key hwaiting
  free := by
    intro key hwaiting htaken
    split at hwaiting
    · next hplace =>
      obtain ⟨entry, hentry, heq⟩ := List.mem_map.mp htaken
      have hbound := (t.numbered entry hentry).2
      simp only [heq, hplace, if_true] at hbound
      omega
    · next hother =>
      simp only [hother, if_false] at htaken
      exact t.free key hwaiting htaken
  once := t.once

/-- The waiting visitor of a place is taken away. -/
def take (t : Tickets κ τ) (place : κ) (taker : τ) : Tickets κ τ :=
  if hplace : t.waiting place = true then {
    arrivals := t.arrivals
    waiting := fun key ↦ if key = place then false else t.waiting key
    taken := ((place, t.arrivals place), taker) :: t.taken
    numbered := by
      intro entry hentry
      rcases List.mem_cons.mp hentry with rfl | hentry
      · exact ⟨t.positive place hplace, le_refl _⟩
      · exact t.numbered entry hentry
    positive := by
      intro key hwaiting
      split at hwaiting
      · cases hwaiting
      · exact t.positive key hwaiting
    free := by
      intro key hwaiting htaken
      split at hwaiting
      · cases hwaiting
      · next hother =>
        rcases List.mem_cons.mp htaken with heq | htaken
        · exact hother (Prod.mk.inj heq).1
        · exact t.free key hwaiting htaken
    once := List.nodup_cons.mpr ⟨t.free place hplace, t.once⟩ }
  else t

variable (t : Tickets κ τ) {place : κ} {taker : τ}

@[simp]
theorem taken_arrive : (t.arrive place).taken = t.taken := rfl

theorem taken_take (h : t.waiting place = true) :
    (t.take place taker).taken = ((place, t.arrivals place), taker) :: t.taken := by
  rw [take, dif_pos h]

theorem waiting_take (key : κ) :
    (t.take place taker).waiting key = if key = place then false else t.waiting key := by
  unfold take
  split
  · rfl
  · next hplace =>
    split
    · next heq => simpa [heq] using hplace
    · rfl

end Tickets

end PhoneBridge.Library
