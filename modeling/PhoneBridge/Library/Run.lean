import Mathlib.Data.List.Basic

/-!
# Runs of labelled machines

A machine is a partial step function `step : σ → ι → Option σ`: the label says which party acts
and with which data, and `none` says that the step is not enabled. A run performs a list of
labels. `Throughout guard` says that every step of the run meets a guard in the state it is taken
from, `Always good` that every state it passes through is good; the invariant rule turns a one-step
fact into a fact about every run. A recorded run also keeps the steps it has taken, for properties
that speak about the past.
-/

namespace PhoneBridge.Library.Run

variable {σ ι : Type*} (step : σ → ι → Option σ)

/-- Perform the labelled steps in order; `none` when one of them is not enabled. -/
def exec : σ → List ι → Option σ
  | s, [] => some s
  | s, i :: is => (step s i).bind fun t ↦ exec t is

/-- Every enabled step of the run meets `guard` in the state it is taken from. -/
def Throughout (guard : σ → ι → Prop) : σ → List ι → Prop
  | _, [] => True
  | s, i :: is => guard s i ∧ ∀ t, step s i = some t → Throughout guard t is

/-- Every state that the run passes through, the first one included, is good. -/
def Always (good : σ → Prop) : σ → List ι → Prop
  | s, [] => good s
  | s, i :: is => good s ∧ ∀ t, step s i = some t → Always good t is

variable {step}

@[simp]
theorem exec_nil (s : σ) : exec step s [] = some s := rfl

@[simp]
theorem exec_cons (s : σ) (i : ι) (is : List ι) :
    exec step s (i :: is) = (step s i).bind fun t ↦ exec step t is := rfl

theorem exec_append (s : σ) (front back : List ι) :
    exec step s (front ++ back) = (exec step s front).bind fun t ↦ exec step t back := by
  induction front generalizing s with
  | nil => rfl
  | cons i front ih =>
    simp only [List.cons_append, exec_cons, Option.bind_assoc]
    exact congrArg _ (funext fun t ↦ ih t)

variable {guard : σ → ι → Prop}

theorem Throughout.cons {s t : σ} {i : ι} {is : List ι} (hguard : guard s i)
    (hstep : step s i = some t) (hrest : Throughout step guard t is) :
    Throughout step guard s (i :: is) :=
  ⟨hguard, fun _ hother ↦ Option.some.inj (hstep.symm.trans hother) ▸ hrest⟩

/-- A guard met throughout a run is met at each of its steps. -/
theorem Throughout.at_step {s t : σ} {front back : List ι} {i : ι}
    (h : Throughout step guard s (front ++ i :: back)) (hfront : exec step s front = some t) :
    guard t i := by
  induction front generalizing s with
  | nil =>
    cases hfront
    exact h.1
  | cons j front ih =>
    obtain ⟨middle, hstep, hrest⟩ := Option.bind_eq_some_iff.mp hfront
    exact ih (h.2 middle hstep) hrest

/-- It is enough to check the guard after every front part of the run. -/
theorem throughout_of_at_step {s : σ} {labels : List ι}
    (h : ∀ front i back t, labels = front ++ i :: back → exec step s front = some t → guard t i) :
    Throughout step guard s labels := by
  induction labels generalizing s with
  | nil => trivial
  | cons i labels ih =>
    refine ⟨h [] i labels s rfl rfl, fun t hstep ↦ ih fun front j back u hsplit hrun ↦ ?_⟩
    refine h (i :: front) j back u (by rw [hsplit, List.cons_append]) ?_
    rw [exec_cons, hstep]
    exact hrun

/-- A run whose steps all meet the guard is a front part of itself. -/
theorem Throughout.front {s : σ} {front back : List ι}
    (h : Throughout step guard s (front ++ back)) : Throughout step guard s front := by
  induction front generalizing s with
  | nil => trivial
  | cons i front ih => exact ⟨h.1, fun t hstep ↦ ih (h.2 t hstep)⟩

/-- The rest of a run whose steps all meet the guard. -/
theorem Throughout.back {s t : σ} {front back : List ι}
    (h : Throughout step guard s (front ++ back)) (hfront : exec step s front = some t) :
    Throughout step guard t back := by
  induction front generalizing s with
  | nil =>
    cases hfront
    exact h
  | cons i front ih =>
    obtain ⟨middle, hstep, hrest⟩ := Option.bind_eq_some_iff.mp hfront
    exact ih (h.2 middle hstep) hrest

/-- Two guards that are both met throughout. -/
theorem Throughout.and {guard' : σ → ι → Prop} {s : σ} {labels : List ι}
    (h : Throughout step guard s labels) (h' : Throughout step guard' s labels) :
    Throughout step (fun s i ↦ guard s i ∧ guard' s i) s labels := by
  induction labels generalizing s with
  | nil => trivial
  | cons i labels ih => exact ⟨⟨h.1, h'.1⟩, fun t hstep ↦ ih (h.2 t hstep) (h'.2 t hstep)⟩

theorem throughout_true (s : σ) (labels : List ι) :
    Throughout step (fun _ _ ↦ True) s labels :=
  throughout_of_at_step fun _ _ _ _ _ _ ↦ trivial

/-- The invariant rule for runs whose steps all meet a guard. -/
theorem invariant_of_throughout (inv : σ → Prop) {s t : σ} {labels : List ι}
    (hstep : ∀ u i v, inv u → guard u i → step u i = some v → inv v)
    (hguard : Throughout step guard s labels) (hrun : exec step s labels = some t)
    (hinit : inv s) : inv t := by
  induction labels generalizing s with
  | nil =>
    cases hrun
    exact hinit
  | cons i labels ih =>
    obtain ⟨middle, hmiddle, hrest⟩ := Option.bind_eq_some_iff.mp hrun
    exact ih (hguard.2 middle hmiddle) hrest (hstep s i middle hinit hguard.1 hmiddle)

/-- The invariant rule for all runs. -/
theorem invariant (inv : σ → Prop) {s t : σ} {labels : List ι}
    (hstep : ∀ u i v, inv u → step u i = some v → inv v)
    (hrun : exec step s labels = some t) (hinit : inv s) : inv t :=
  invariant_of_throughout inv (fun u i v hu (_ : True) hv ↦ hstep u i v hu hv)
    (throughout_true s labels) hrun hinit

/-- Guards that agree on an invariant are met throughout by the same runs. -/
theorem throughout_congr (inv : σ → Prop) {guard' : σ → ι → Prop} {s : σ} {labels : List ι}
    (hstep : ∀ u i v, inv u → step u i = some v → inv v)
    (hguards : ∀ u i, inv u → (guard u i ↔ guard' u i)) (hinit : inv s) :
    Throughout step guard s labels ↔ Throughout step guard' s labels := by
  induction labels generalizing s with
  | nil => exact Iff.rfl
  | cons i labels ih =>
    refine and_congr (hguards s i hinit) (forall_congr' fun t ↦ ?_)
    exact forall_congr' fun ht ↦ ih (hstep s i t hinit ht)

/-! ## Safety of whole runs -/

variable {good : σ → Prop}

/-- The first state of a run is one that it passes through. -/
theorem Always.first {s : σ} {labels : List ι} (h : Always step good s labels) : good s := by
  cases labels with
  | nil => exact h
  | cons i labels => exact h.1

/-- The state that a front part of the run ends in is one that it passes through. -/
theorem Always.at_front {s t : σ} {front back : List ι}
    (h : Always step good s (front ++ back)) (hfront : exec step s front = some t) : good t := by
  induction front generalizing s with
  | nil =>
    cases hfront
    exact h.first
  | cons i front ih =>
    obtain ⟨middle, hstep, hrest⟩ := Option.bind_eq_some_iff.mp hfront
    exact ih (h.2 middle hstep) hrest

/-- The last state of a run is one that it passes through. -/
theorem Always.last {s t : σ} {labels : List ι} (h : Always step good s labels)
    (hrun : exec step s labels = some t) : good t := by
  rw [← List.append_nil labels] at h
  exact h.at_front hrun

/-- An invariant that holds as long as the guard is met makes every state good. -/
theorem always_of_throughout (inv : σ → Prop) {s : σ} {labels : List ι}
    (hgood : ∀ u, inv u → good u)
    (hkeep : ∀ u i v, inv u → guard u i → step u i = some v → inv v)
    (hguard : Throughout step guard s labels) (hinit : inv s) : Always step good s labels := by
  induction labels generalizing s with
  | nil => exact hgood s hinit
  | cons i labels ih =>
    refine ⟨hgood s hinit, fun t hstep ↦ ?_⟩
    exact ih (hguard.2 t hstep) (hkeep s i t hinit hguard.1 hstep)

/-- The exact condition for a safety property: a guard that keeps the invariant, and whose
violation leads to a bad state at once, is met throughout by the safe runs and only by them. -/
theorem always_iff_throughout (inv : σ → Prop) {s : σ} {labels : List ι}
    (hgood : ∀ u, inv u → good u)
    (hkeep : ∀ u i v, inv u → guard u i → step u i = some v → inv v)
    (hbreak : ∀ u i, inv u → ¬ guard u i → ∃ v, step u i = some v ∧ ¬ good v) (hinit : inv s) :
    Always step good s labels ↔ Throughout step guard s labels := by
  refine ⟨fun halways ↦ ?_, fun hguard ↦ always_of_throughout inv hgood hkeep hguard hinit⟩
  induction labels generalizing s with
  | nil => trivial
  | cons i labels ih =>
    have hmet : guard s i := by
      by_contra hviolated
      obtain ⟨t, hstep, hbad⟩ := hbreak s i hinit hviolated
      exact hbad (halways.2 t hstep).first
    exact ⟨hmet, fun t hstep ↦ ih (hkeep s i t hinit hmet hstep) (halways.2 t hstep)⟩

/-- Whether a decidable guard is met throughout a run can be evaluated. -/
def decidableThroughout [∀ s i, Decidable (guard s i)] :
    ∀ (s : σ) (labels : List ι), Decidable (Throughout step guard s labels)
  | _, [] => .isTrue trivial
  | s, i :: labels =>
    match hstep : step s i with
    | none => decidable_of_iff (guard s i) (by simp [Throughout, hstep])
    | some t =>
      have := decidableThroughout t labels
      decidable_of_iff (guard s i ∧ Throughout step guard t labels) (by simp [Throughout, hstep])

instance [∀ s i, Decidable (guard s i)] (s : σ) (labels : List ι) :
    Decidable (Throughout step guard s labels) :=
  decidableThroughout s labels

/-- Whether a decidable property holds of every state of the run can be evaluated. -/
def decidableAlways [∀ s, Decidable (good s)] :
    ∀ (s : σ) (labels : List ι), Decidable (Always step good s labels)
  | s, [] => inferInstanceAs (Decidable (good s))
  | s, i :: labels =>
    match hstep : step s i with
    | none => decidable_of_iff (good s) (by simp [Always, hstep])
    | some t =>
      have := decidableAlways t labels
      decidable_of_iff (good s ∧ Always step good t labels) (by simp [Always, hstep])

instance [∀ s, Decidable (good s)] (s : σ) (labels : List ι) :
    Decidable (Always step good s labels) :=
  decidableAlways s labels

/-! ## Recorded runs -/

/-- The machine that also remembers its steps, newest first, each with the state it was taken
from. -/
def recorded (step : σ → ι → Option σ) : σ × List (σ × ι) → ι → Option (σ × List (σ × ι))
  | (s, past), i => (step s i).map fun t ↦ (t, (s, i) :: past)

theorem recorded_eq_some {s t : σ} {past past' : List (σ × ι)} {i : ι} :
    recorded step (s, past) i = some (t, past') ↔ step s i = some t ∧ past' = (s, i) :: past := by
  simp [recorded, @eq_comm _ past']

end PhoneBridge.Library.Run
