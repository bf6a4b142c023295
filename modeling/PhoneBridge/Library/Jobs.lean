import PhoneBridge.Library.KeyMap
import PhoneBridge.Library.Run
import PhoneBridge.Library.Service

/-!
# Jobs that share a service

A job makes the requests of its program one after the other, whatever they are answered. The
requests of different jobs interleave, some never reach the service, and a job may be cut off
anywhere. The service has then been asked what has reached it, in this order, and each job has made
the first requests of its program.
-/

namespace PhoneBridge.Library

/-- What a job is for, and how many requests it has made. -/
structure Job (γ : Type*) where
  cause : γ
  made : ℕ

/-- A request that a job has made. -/
structure Made (κ : Type*) where
  job : ℕ
  request : κ
  reached : Bool

structure Jobs (σ γ κ : Type*) where
  shared : σ
  jobs : KeyMap ℕ (Job γ)
  /-- all requests so far, oldest first; no step reads them -/
  log : List (Made κ)

inductive JobLabel (γ : Type*)
  | start (id : ℕ) (cause : γ)
  | advance (id : ℕ) (reached : Bool)

namespace Jobs

variable {σ γ κ α ε : Type*}

def init (shared : σ) : Jobs σ γ κ where
  shared
  jobs := .empty
  log := []

def step (program : γ → List κ) (handle : σ → κ → Except ε (α × σ)) (s : Jobs σ γ κ) :
    JobLabel γ → Option (Jobs σ γ κ)
  | .start id cause =>
    if s.jobs.contains id then none
    else some { s with jobs := s.jobs.insert id { cause, made := 0 } }
  | .advance id reached =>
    (s.jobs.get id).bind fun job ↦ ((program job.cause)[job.made]?).map fun request ↦ {
      shared := if reached then Service.after handle s.shared request else s.shared
      jobs := s.jobs.insert id { job with made := job.made + 1 }
      log := s.log ++ [{ job := id, request, reached }] }

/-- The requests that have reached the service. -/
def reached (s : Jobs σ γ κ) : List κ := (s.log.filter (·.reached)).map (·.request)

def madeBy (log : List (Made κ)) (id : ℕ) : List κ := (log.filter (·.job = id)).map (·.request)

theorem madeBy_append (front back : List (Made κ)) (id : ℕ) :
    madeBy (front ++ back) id = madeBy front id ++ madeBy back id := by
  rw [madeBy, List.filter_append, List.map_append]
  rfl

theorem madeBy_cons (made : Made κ) (back : List (Made κ)) :
    madeBy (made :: back) made.job = made.request :: madeBy back made.job := by
  rw [madeBy, List.filter_cons_of_pos (by simp)]
  rfl

variable {program : γ → List κ} {handle : σ → κ → Except ε (α × σ)} {first : σ}
  {s next : Jobs σ γ κ} {label : JobLabel γ}

/-- All that a step can do. -/
theorem step_cases (h : s.step program handle label = some next) :
    (∃ id cause, label = .start id cause ∧ s.jobs.get id = none ∧
      next = { s with jobs := s.jobs.insert id { cause, made := 0 } }) ∨
    ∃ id reached job request, label = .advance id reached ∧ s.jobs.get id = some job ∧
      (program job.cause)[job.made]? = some request ∧ next = {
        shared := if reached then Service.after handle s.shared request else s.shared
        jobs := s.jobs.insert id { job with made := job.made + 1 }
        log := s.log ++ [{ job := id, request, reached }] } := by
  cases label with
  | start id cause =>
    rw [step] at h
    split_ifs at h with hknown
    rw [KeyMap.contains_eq, Bool.not_eq_true, Option.isSome_eq_false_iff,
      Option.isNone_iff_eq_none] at hknown
    exact .inl ⟨id, cause, rfl, hknown, (Option.some.inj h).symm⟩
  | advance id reached =>
    obtain ⟨job, hjob, hrequest⟩ := Option.bind_eq_some_iff.mp h
    obtain ⟨request, hnext, rfl⟩ := Option.map_eq_some_iff.mp hrequest
    exact .inr ⟨id, reached, job, request, rfl, hjob, hnext, rfl⟩

/-- What the service has been asked, and what the jobs have made of their programs. -/
structure Keeps (program : γ → List κ) (handle : σ → κ → Except ε (α × σ)) (first : σ)
    (s : Jobs σ γ κ) : Prop where
  shared : s.shared = (Service.perform handle first s.reached).2
  made : ∀ id, madeBy s.log id =
    ((s.jobs.get id).map fun job ↦ (program job.cause).take job.made).getD []

theorem keeps_init : Keeps program handle first (init first) where
  shared := rfl
  made _ := rfl

theorem Keeps.step (h : Keeps program handle first s)
    (hstep : s.step program handle label = some next) : Keeps program handle first next := by
  rcases step_cases hstep with ⟨id, cause, rfl, hnew, rfl⟩ |
    ⟨id, reached, job, request, rfl, hjob, hrequest, rfl⟩
  · refine { shared := h.shared, made := fun other ↦ ?_ }
    rw [KeyMap.get_insert, h.made]
    split_ifs with hother
    · subst hother
      rw [hnew]
      rfl
    · rfl
  · have hlog : Jobs.reached (σ := σ) (γ := γ) {
        shared := if reached then Service.after handle s.shared request else s.shared
        jobs := s.jobs.insert id { job with made := job.made + 1 }
        log := s.log ++ [{ job := id, request, reached }] } =
          s.reached ++ if reached then [request] else [] := by
      rw [Jobs.reached, List.filter_append, List.map_append]
      cases reached <;> rfl
    refine { shared := ?_, made := fun other ↦ ?_ }
    · rw [hlog]
      cases reached with
      | false =>
        rw [if_neg Bool.false_ne_true, if_neg Bool.false_ne_true, List.append_nil]
        exact h.shared
      | true =>
        rw [if_pos rfl, if_pos rfl, Service.perform_append, ← h.shared, Service.perform_singleton]
    · rw [madeBy_append, KeyMap.get_insert, h.made]
      split_ifs with hother
      · subst hother
        have hone : madeBy [{ job := other, request, reached }] other = [request] :=
          madeBy_cons { job := other, request, reached } []
        rw [hjob, hone, Option.map_some, Option.map_some, Option.getD_some, Option.getD_some,
          List.take_add_one, hrequest]
        rfl
      · have hnone : madeBy [{ job := id, request, reached }] other = [] := by
          rw [madeBy, List.filter_cons_of_neg (by simpa using Ne.symm hother)]
          rfl
        rw [hnone, List.append_nil]

theorem Keeps.exec {labels : List (JobLabel γ)} (h : Keeps program handle first s)
    (hrun : Run.exec (Jobs.step program handle) s labels = some next) :
    Keeps program handle first next :=
  Run.invariant (Keeps program handle first) (fun _ _ _ hkeeps ↦ hkeeps.step) hrun h

/-- What comes before a request in every program has been made before it, by the same job. -/
theorem Keeps.before {p : κ → Prop} {q : κ → κ → Prop}
    (hprogram : ∀ cause front request back, program cause = front ++ request :: back →
      p request → ∃ earlier ∈ front, q request earlier)
    (h : Keeps program handle first s) {front back : List (Made κ)} {made : Made κ}
    (hlog : s.log = front ++ made :: back) (hp : p made.request) :
    ∃ earlier ∈ front, earlier.job = made.job ∧ q made.request earlier.request := by
  have hmade := h.made made.job
  rw [hlog, madeBy_append, madeBy_cons] at hmade
  cases hjob : s.jobs.get made.job with
  | none =>
    rw [hjob] at hmade
    exact absurd hmade (by simp)
  | some job =>
    rw [hjob, Option.map_some, Option.getD_some] at hmade
    have hcause : program job.cause = madeBy front made.job ++ made.request ::
        (madeBy back made.job ++ (program job.cause).drop job.made) := by
      rw [← List.cons_append, ← List.append_assoc, hmade, List.take_append_drop]
    obtain ⟨request, hrequest, hq⟩ := hprogram job.cause _ _ _ hcause hp
    obtain ⟨earlier, hearlier, rfl⟩ := List.mem_map.mp hrequest
    obtain ⟨hfront, hsame⟩ := List.mem_filter.mp hearlier
    exact ⟨earlier, hfront, of_decide_eq_true hsame, hq⟩

/-- The log only grows. -/
theorem log_step (hstep : s.step program handle label = some next) : s.log <+: next.log := by
  rcases step_cases hstep with ⟨id, cause, rfl, -, rfl⟩ | ⟨id, reached, job, request, rfl, -, -, rfl⟩
  · exact List.prefix_refl _
  · exact List.prefix_append _ _

end Jobs

end PhoneBridge.Library
