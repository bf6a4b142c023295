import Mathlib.Data.List.Forall2
import Mathlib.Tactic.Common

/-!
# Fallible computations

Checks that fail with an error, and what the success of a composed computation says about its
parts.
-/

namespace PhoneBridge.Library

variable {ε δ α β : Type}

/-- Fail with an error unless a condition holds. -/
def ensure (p : Prop) [Decidable p] (error : ε) : Except ε Unit := if p then .ok () else .error error

@[simp]
theorem ensure_eq_ok {p : Prop} [Decidable p] {error : ε} {u : Unit} :
    ensure p error = .ok u ↔ p := by
  by_cases h : p <;> simp [ensure, h]

theorem bind_eq_ok {x : Except ε α} {f : α → Except ε β} {b : β} :
    (x >>= f) = .ok b ↔ ∃ a, x = .ok a ∧ f a = .ok b := by
  cases x <;> simp [bind, Except.bind]

theorem mapError_eq_ok {x : Except ε α} {translate : ε → δ} {a : α} :
    x.mapError translate = .ok a ↔ x = .ok a := by
  cases x <;> simp [Except.mapError]

theorem map_eq_ok {x : Except ε α} {f : α → β} {b : β} :
    x.map f = .ok b ↔ ∃ a, x = .ok a ∧ f a = b := by
  cases x <;> simp [Except.map]

theorem toOption_eq_some {x : Except ε α} {a : α} : x.toOption = some a ↔ x = .ok a := by
  cases x <;> simp [Except.toOption]

/-- A list is read to the list of what its elements are read to. -/
theorem mapM_eq_ok_iff {f : α → Except ε β} {as : List α} {bs : List β} :
    as.mapM f = .ok bs ↔ List.Forall₂ (fun a b ↦ f a = .ok b) as bs := by
  induction as generalizing bs with
  | nil => cases bs <;> simp [pure, Except.pure]
  | cons a as ih =>
    rw [List.mapM_cons]
    constructor
    · intro h
      obtain ⟨b, hb, h⟩ := bind_eq_ok.mp h
      obtain ⟨bs', hbs, h⟩ := bind_eq_ok.mp h
      cases h
      exact .cons hb (ih.mp hbs)
    · intro h
      cases h with
      | cons hb hbs =>
        rw [hb, ih.mpr hbs]
        rfl

/-- A list is read when each of its elements is. -/
theorem mapM_ok {f : α → Except ε β} {as : List α} (h : ∀ a ∈ as, ∃ b, f a = .ok b) :
    ∃ bs, as.mapM f = .ok bs := by
  induction as with
  | nil => exact ⟨[], rfl⟩
  | cons a as ih =>
    obtain ⟨b, hb⟩ := h a List.mem_cons_self
    obtain ⟨bs, hbs⟩ := ih fun a ha ↦ h a (List.mem_cons_of_mem _ ha)
    exact ⟨b :: bs, by simp [hb, hbs, bind, Except.bind, pure, Except.pure]⟩

end PhoneBridge.Library
