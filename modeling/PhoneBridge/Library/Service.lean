import Mathlib.Data.List.Basic

/-!
# Services and their refinement

A service answers each request or fails, and a request that fails changes nothing. One service
refines another one when every request does the same to the state as the other one sees it.
-/

namespace PhoneBridge.Library.Service

variable {σ τ κ α ε : Type*}

/-- The answers to requests one after the other, and the state after the last one. -/
def perform (handle : σ → κ → Except ε (α × σ)) (s : σ) : List κ → List (Except ε α) × σ
  | [] => ([], s)
  | request :: requests =>
    match handle s request with
    | .ok (answer, next) =>
      ((.ok answer) :: (perform handle next requests).1, (perform handle next requests).2)
    | .error e => ((.error e) :: (perform handle s requests).1, (perform handle s requests).2)

/-- The state after one request. -/
def after (handle : σ → κ → Except ε (α × σ)) (s : σ) (request : κ) : σ :=
  match handle s request with
  | .ok (_, next) => next
  | .error _ => s

theorem perform_append (handle : σ → κ → Except ε (α × σ)) (s : σ) (front back : List κ) :
    (perform handle s (front ++ back)).2 = (perform handle (perform handle s front).2 back).2 := by
  induction front generalizing s with
  | nil => rfl
  | cons request front ih =>
    rw [List.cons_append, perform, perform]
    split
    · exact ih _
    · exact ih _

theorem perform_singleton (handle : σ → κ → Except ε (α × σ)) (s : σ) (request : κ) :
    (perform handle s [request]).2 = after handle s request := by
  rw [perform, after]
  split <;> rfl

/-- Each request does the same to what is seen of the state, as long as the invariant holds. -/
structure Refines (handle : σ → κ → Except ε (α × σ)) (spec : τ → κ → Except ε (α × τ))
    (view : σ → τ) (inv : σ → Prop) : Prop where
  keeps : ∀ s request answer next, inv s → handle s request = .ok (answer, next) → inv next
  agrees : ∀ s request, inv s →
    (handle s request).map (fun result ↦ (result.1, view result.2)) = spec (view s) request

variable {handle : σ → κ → Except ε (α × σ)} {spec : τ → κ → Except ε (α × τ)} {view : σ → τ}
  {inv : σ → Prop} {s : σ}

/-- The invariant holds after every sequence of requests. -/
theorem Refines.inv_perform (h : Refines handle spec view inv) (hs : inv s) (requests : List κ) :
    inv (perform handle s requests).2 := by
  induction requests generalizing s with
  | nil => exact hs
  | cons request requests ih =>
    rw [perform]
    split
    · next answer next hnext => exact ih (h.keeps s request answer next hs hnext)
    · exact ih hs

/-- All answers and all failures are the same, and so is what is seen of the state at the end. -/
theorem Refines.perform (h : Refines handle spec view inv) (hs : inv s) (requests : List κ) :
    Service.perform spec (view s) requests =
      ((Service.perform handle s requests).1, view (Service.perform handle s requests).2) := by
  induction requests generalizing s with
  | nil => rfl
  | cons request requests ih =>
    have hagrees := h.agrees s request hs
    rw [Service.perform, Service.perform, ← hagrees]
    cases hresult : handle s request with
    | error e =>
      change ((Except.error e) :: (Service.perform spec (view s) requests).1,
        (Service.perform spec (view s) requests).2) = _
      rw [ih hs]
    | ok result =>
      change ((Except.ok result.1) :: (Service.perform spec (view result.2) requests).1,
        (Service.perform spec (view result.2) requests).2) = _
      rw [ih (h.keeps s request result.1 result.2 hs hresult)]

/-! ## What has been accepted -/

/-- The requests that have not failed, oldest first. -/
def accepted (handle : σ → κ → Except ε (α × σ)) (s : σ) : List κ → List κ
  | [] => []
  | request :: requests =>
    match handle s request with
    | .ok (_, next) => request :: accepted handle next requests
    | .error _ => accepted handle s requests

/-- What each accepted request does to a part of the state adds up. -/
theorem part_perform {π : Type*} (part : σ → π) (f : π → κ → π)
    (hinv : ∀ s request answer next, inv s → handle s request = .ok (answer, next) → inv next)
    (hstep : ∀ s request answer next, inv s → handle s request = .ok (answer, next) →
      part next = f (part s) request)
    (hs : inv s) (requests : List κ) :
    part (perform handle s requests).2 = (accepted handle s requests).foldl f (part s) := by
  induction requests generalizing s with
  | nil => rfl
  | cons request requests ih =>
    rw [perform, accepted]
    split
    · next answer next hnext =>
      rw [List.foldl_cons, ← hstep s request answer next hs hnext]
      exact ih (hinv s request answer next hs hnext)
    · exact ih hs

end PhoneBridge.Library.Service
