import Mathlib.Tactic.Common

/-!
# Scripts that may be cut off

A script makes calls to the system around it, each of which may depend on the results of those
before, and returns a value or fails. A call is atomic, and between two calls the script may be cut
off. `Meets system during post script s` says that a run of the script from `s` makes each call in a
state that meets `during` for it and ends in a state that meets `post` for its result; whatever is
left of a script that is cut off meets the same.
-/

namespace PhoneBridge.Library

/-- A script over calls with results of these types. -/
inductive Script {Call : Type} (Result : Call → Type) (ε α : Type)
  | done (a : α)
  | fail (e : ε)
  | call (c : Call) (next : Result c → Script Result ε α)

namespace Script

variable {Call : Type} {Result : Call → Type} {ε α β σ : Type}

/-- Continue with the value that a script returns. -/
def andThen : Script Result ε α → (α → Script Result ε β) → Script Result ε β
  | .done a, next => next a
  | .fail e, _ => .fail e
  | .call c rest, next => .call c fun r ↦ (rest r).andThen next

instance : Monad (Script Result ε) where
  pure := .done
  bind := .andThen

/-- The script that makes no call. -/
def ofExcept : Except ε α → Script Result ε α
  | .ok a => .done a
  | .error e => .fail e

/-- The call that the script makes next. -/
def pending : Script Result ε α → Option Call
  | .call c _ => some c
  | _ => none

section Runs

/-! ## Runs -/

variable (system : (c : Call) → σ → Result c × σ)

/-- Run a script to its end. -/
def run : Script Result ε α → σ → Except ε α × σ
  | .done a, s => (.ok a, s)
  | .fail e, s => (.error e, s)
  | .call c next, s => (next (system c s).1).run (system c s).2

/-- Cut a script off after `n` calls: what is left of it, and the state it leaves behind. -/
def cutOff : Nat → Script Result ε α → σ → Option (Script Result ε α × σ)
  | 0, script, s => some (script, s)
  | n + 1, .call c next, s => cutOff n (next (system c s).1) (system c s).2
  | _ + 1, _, _ => none

theorem run_bind (script : Script Result ε α) (next : α → Script Result ε β) (s : σ) :
    (script >>= next).run system s =
      match script.run system s with
      | (.ok a, t) => (next a).run system t
      | (.error e, t) => (.error e, t) := by
  change (script.andThen next).run system s = _
  induction script generalizing s with
  | done a => rfl
  | fail e => rfl
  | call c rest ih => exact ih _ _

@[simp]
theorem run_pure (a : α) (s : σ) : (pure a : Script Result ε α).run system s = (.ok a, s) := rfl

@[simp]
theorem run_ofExcept (x : Except ε α) (s : σ) :
    (ofExcept x : Script Result ε α).run system s = (x, s) := by
  cases x <;> rfl

end Runs

/-! ## What holds at every point of a run -/

/-- Every call is made in a state that meets `during`, and the end meets `post`. -/
def Meets (system : (c : Call) → σ → Result c × σ) (during : Call → σ → Prop)
    (post : Except ε α → σ → Prop) : Script Result ε α → σ → Prop
  | .done a, s => post (.ok a) s
  | .fail e, s => post (.error e) s
  | .call c next, s =>
    during c s ∧ (next (system c s).1).Meets system during post (system c s).2

section Meets

variable {system : (c : Call) → σ → Result c × σ} {during : Call → σ → Prop}
  {script : Script Result ε α} {s t : σ}

/-- One script after another. -/
theorem meets_bind {mid : Except ε α → σ → Prop} {post : Except ε β → σ → Prop}
    {next : α → Script Result ε β} (h : script.Meets system during mid s)
    (hnext : ∀ a t, mid (.ok a) t → (next a).Meets system during post t)
    (hfail : ∀ e t, mid (.error e) t → post (.error e) t) :
    (script >>= next).Meets system during post s := by
  change (script.andThen next).Meets system during post s
  induction script generalizing s with
  | done a => exact hnext a s h
  | fail e => exact hfail e s h
  | call c rest ih => exact ⟨h.1, ih _ h.2⟩

theorem Meets.mono {mid post : Except ε α → σ → Prop} (h : script.Meets system during mid s)
    (himp : ∀ result t, mid result t → post result t) : script.Meets system during post s := by
  induction script generalizing s with
  | done a => exact himp _ _ h
  | fail e => exact himp _ _ h
  | call c rest ih => exact ⟨h.1, ih _ h.2⟩

theorem meets_ofExcept {post : Except ε α → σ → Prop} {x : Except ε α} (h : post x s) :
    (ofExcept x : Script Result ε α).Meets system during post s := by
  cases x <;> exact h

variable {post : Except ε α → σ → Prop}

/-- A run to the end ends as promised. -/
theorem Meets.run (h : script.Meets system during post s) :
    post (script.run system s).1 (script.run system s).2 := by
  induction script generalizing s with
  | done a => exact h
  | fail e => exact h
  | call c rest ih => exact ih _ h.2

/-- What is left of a script that is cut off still meets the promise. -/
theorem Meets.cutOff {n : Nat} {rest : Script Result ε α} (h : script.Meets system during post s)
    (hcut : script.cutOff system n s = some (rest, t)) : rest.Meets system during post t := by
  induction n generalizing script s with
  | zero =>
    cases hcut
    exact h
  | succ n ih =>
    cases script with
    | done a => cases hcut
    | fail e => cases hcut
    | call c next => exact ih h.2 hcut

/-- A script is cut off before a call, in a state that is right for the call, or at its end. -/
theorem Meets.cut_cases (h : script.Meets system during post s) :
    (∃ c, script.pending = some c ∧ during c s) ∨ ∃ result, post result s := by
  cases script with
  | done a => exact .inr ⟨_, h⟩
  | fail e => exact .inr ⟨_, h⟩
  | call c next => exact .inl ⟨c, rfl, h.1⟩

end Meets

end Script

end PhoneBridge.Library
