import Mathlib.Order.Basic

/-!
# While loops

A `while` loop whose body may throw. The variant that goes down with every round is a field of the
loop, so that a loop that never ends cannot be written; the invariant rule gives total correctness.
-/

namespace PhoneBridge.Library

/-- A loop over states `σ` whose body may throw `ε`. -/
structure WhileLoop (σ ε : Type*) where
  running : σ → Bool
  body : σ → Except ε σ
  variant : σ → Nat
  decreases : ∀ s t, running s = true → body s = .ok t → variant t < variant s

namespace WhileLoop

variable {σ ε : Type*} (loop : WhileLoop σ ε)

/-- Take rounds until the condition is false or the body throws. -/
def run (s : σ) : Except ε σ :=
  if _ : loop.running s = true then
    match _ : loop.body s with
    | .ok t => run t
    | .error e => .error e
  else .ok s
termination_by loop.variant s
decreasing_by exact loop.decreases _ _ ‹_› ‹_›

variable {loop} {s t : σ}

theorem run_of_stopped (h : loop.running s = false) : loop.run s = .ok s := by
  rw [run, dif_neg (by simp [h])]

theorem run_of_round (hrunning : loop.running s = true) (hbody : loop.body s = .ok t) :
    loop.run s = loop.run t := by
  rw [run, dif_pos hrunning]
  split
  · next u hu =>
    rw [hbody] at hu
    rw [Except.ok.inj hu]
  · next e he =>
    rw [hbody] at he
    cases he

/-- The invariant rule: when every round keeps the invariant and does not throw, the loop ends in a
state that has the invariant and fails the condition. -/
theorem run_eq_ok (inv : σ → Prop)
    (hround : ∀ s, inv s → loop.running s = true → ∃ t, loop.body s = .ok t ∧ inv t) (hs : inv s) :
    ∃ t, loop.run s = .ok t ∧ inv t ∧ loop.running t = false := by
  induction hvariant : loop.variant s using Nat.strongRecOn generalizing s with
  | ind n ih =>
    cases hrunning : loop.running s with
    | false => exact ⟨s, run_of_stopped hrunning, hs, hrunning⟩
    | true =>
      obtain ⟨t, hbody, ht⟩ := hround s hs hrunning
      have hlt : loop.variant t < n := by
        rw [← hvariant]
        exact loop.decreases s t hrunning hbody
      obtain ⟨u, hrun, hu⟩ := ih (loop.variant t) hlt ht rfl
      exact ⟨u, (run_of_round hrunning hbody).trans hrun, hu⟩

end WhileLoop

end PhoneBridge.Library
