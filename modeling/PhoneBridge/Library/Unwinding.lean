import Mathlib.Data.List.Basic

/-!
# Unwinding

Noninterference for a machine that consumes inputs. An observer sees a view of the state, and some
inputs are the observer's own. When other inputs leave the view alone, and own inputs change it in a
way that depends on the view only, then the view after a run depends on the own inputs only.
-/

namespace PhoneBridge.Library.Unwinding

variable {σ ι ν : Type*}

/-- The conditions on single steps. `inv` is an invariant of the runs whose inputs are all
`allowed`. -/
structure Unwinds (step : σ → ι → σ) (own : ι → Bool) (view : σ → ν) (react : ν → ι → ν)
    (allowed : ι → Prop) (inv : σ → Prop) : Prop where
  invariant : ∀ s i, inv s → allowed i → inv (step s i)
  ignores : ∀ s i, inv s → allowed i → own i = false → view (step s i) = view s
  follows : ∀ s i, inv s → allowed i → own i = true → view (step s i) = react (view s) i

variable {step : σ → ι → σ} {own : ι → Bool} {view : σ → ν} {react : ν → ι → ν}
  {allowed : ι → Prop} {inv : σ → Prop}

/-- Inputs that the view ignores do not change it in any number. -/
theorem view_foldl_of_ignored (view : σ → ν) (h : ∀ s i, view (step s i) = view s) (s : σ)
    (inputs : List ι) :
    view (inputs.foldl step s) = view s := by
  induction inputs generalizing s with
  | nil => rfl
  | cons i inputs ih => exact (ih (step s i)).trans (h s i)

/-- The view after a run is what the own inputs make of it. -/
theorem Unwinds.view_foldl (h : Unwinds step own view react allowed inv) {s : σ} (hs : inv s)
    {inputs : List ι} (hinputs : ∀ i ∈ inputs, allowed i) :
    view (inputs.foldl step s) = (inputs.filter own).foldl react (view s) := by
  induction inputs generalizing s with
  | nil => rfl
  | cons i inputs ih =>
    rw [List.forall_mem_cons] at hinputs
    rw [List.foldl_cons, ih (h.invariant s i hs hinputs.1) hinputs.2]
    cases hown : own i with
    | true => rw [List.filter_cons_of_pos hown, List.foldl_cons, h.follows s i hs hinputs.1 hown]
    | false =>
      rw [List.filter_cons_of_neg (by simp [hown]), h.ignores s i hs hinputs.1 hown]

/-- Two runs with the same own inputs end in the same view. -/
theorem Unwinds.view_eq (h : Unwinds step own view react allowed inv) {s : σ} (hs : inv s)
    {inputs others : List ι} (hinputs : ∀ i ∈ inputs, allowed i) (hothers : ∀ i ∈ others, allowed i)
    (hsame : inputs.filter own = others.filter own) :
    view (inputs.foldl step s) = view (others.foldl step s) := by
  rw [h.view_foldl hs hinputs, h.view_foldl hs hothers, hsame]

end PhoneBridge.Library.Unwinding
