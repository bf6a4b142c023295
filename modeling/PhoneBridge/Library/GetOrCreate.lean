import PhoneBridge.Library.KeyMap
import PhoneBridge.Library.Run

/-!
# Values that are created once

A getter looks for its value in a cache and then in a store that outlives the process; when it is
nowhere, it is created and stored. Calls run beside each other, a step is one access to the store,
and a process can be killed at any point: its cache and its calls are gone then, the store stays.
-/

namespace PhoneBridge.Library.GetOrCreate

/-- A getter with an argument `α` over a store `P`: a call is at a point `Q`, and draws a `D` for a
step. -/
structure Getter (α P Q D V : Type*) where
  start : α → Q
  /-- The store afterwards, and where the call is then or what it has found. -/
  advance : D → P → Q → P × (Q ⊕ V)

/-- The store, the process and what its calls have returned so far, those of earlier processes
included. -/
structure Machine (P Q V : Type*) where
  stored : P
  cached : Option V := none
  calls : KeyMap Nat (Q ⊕ V) := .empty
  returned : List V := []

inductive Label (α D : Type*)
  | call (c : Nat) (argument : α)
  | advance (c : Nat) (draw : D)
  /-- an exception ends the call -/
  | throws (c : Nat)
  /-- the process is killed -/
  | kill

variable {α P Q D V : Type*}

namespace Getter

variable (g : Getter α P Q D V)

/-- A call that has found its value caches and returns it in its last step. -/
def step (s : Machine P Q V) : Label α D → Option (Machine P Q V)
  | .call c argument =>
    match s.calls.get c, s.cached with
    | some _, _ => none
    | none, some value => some { s with returned := value :: s.returned }
    | none, none => some { s with calls := s.calls.insert c (.inl (g.start argument)) }
  | .advance c draw =>
    (s.calls.get c).map fun point ↦
      match point with
      | .inl q =>
        { s with
          stored := (g.advance draw s.stored q).1
          calls := s.calls.insert c (g.advance draw s.stored q).2 }
      | .inr value =>
        { s with
          cached := some value
          calls := s.calls.remove c
          returned := value :: s.returned }
  | .throws c => some { s with calls := s.calls.remove c }
  | .kill => some { s with cached := none, calls := .empty }

/-- What a step does. -/
theorem step_cases {s t : Machine P Q V} {label : Label α D} (h : g.step s label = some t) :
    (∃ c argument value, label = .call c argument ∧ s.cached = some value ∧
        t = { s with returned := value :: s.returned }) ∨
      (∃ c argument, label = .call c argument ∧ s.cached = none ∧
        t = { s with calls := s.calls.insert c (.inl (g.start argument)) }) ∨
      (∃ c draw q, s.calls.get c = some (.inl q) ∧
        t = { s with
          stored := (g.advance draw s.stored q).1
          calls := s.calls.insert c (g.advance draw s.stored q).2 }) ∨
      (∃ c value, s.calls.get c = some (.inr value) ∧
        t = { s with
          cached := some value
          calls := s.calls.remove c
          returned := value :: s.returned }) ∨
      (∃ c, t = { s with calls := s.calls.remove c }) ∨
      t = { s with cached := none, calls := .empty } := by
  cases label with
  | call c argument =>
    simp only [step] at h
    split at h
    · cases h
    · next value _ hcached =>
      cases h
      exact .inl ⟨c, argument, value, rfl, hcached, rfl⟩
    · next _ hcached =>
      cases h
      exact .inr (.inl ⟨c, argument, rfl, hcached, rfl⟩)
  | advance c draw =>
    obtain ⟨point, hget, rfl⟩ := Option.map_eq_some_iff.mp h
    cases point with
    | inl q => exact .inr (.inr (.inl ⟨c, draw, q, hget, rfl⟩))
    | inr value => exact .inr (.inr (.inr (.inl ⟨c, value, hget, rfl⟩)))
  | throws c =>
    cases h
    exact .inr (.inr (.inr (.inr (.inl ⟨c, rfl⟩))))
  | kill =>
    cases h
    exact .inr (.inr (.inr (.inr (.inr rfl))))

/-! ## What every value is like -/

/-- A property of the store, of the points of the calls and of the values that no step breaks. -/
structure Keeps (Sound : P → Prop) (At : Q → Prop) (Good : V → Prop) : Prop where
  start : ∀ argument, At (g.start argument)
  advance : ∀ draw p q, Sound p → At q →
    Sound (g.advance draw p q).1 ∧ Sum.elim At Good (g.advance draw p q).2

/-- The property as an invariant. -/
structure Holds (Sound : P → Prop) (At : Q → Prop) (Good : V → Prop) (s : Machine P Q V) :
    Prop where
  stored : Sound s.stored
  cached : ∀ value, s.cached = some value → Good value
  calls : ∀ c point, s.calls.get c = some point → Sum.elim At Good point
  returned : ∀ value ∈ s.returned, Good value

variable {g} {Sound : P → Prop} {At : Q → Prop} {Good : V → Prop} {s t : Machine P Q V}

theorem Keeps.step (hkeeps : g.Keeps Sound At Good) {label : Label α D} (hs : Holds Sound At Good s)
    (h : g.step s label = some t) : Holds Sound At Good t := by
  rcases g.step_cases h with ⟨c, argument, value, -, hcached, rfl⟩ | ⟨c, argument, -, -, rfl⟩ |
    ⟨c, draw, q, hget, rfl⟩ | ⟨c, value, hget, rfl⟩ | ⟨c, rfl⟩ | rfl
  · exact { hs with returned := List.forall_mem_cons.mpr ⟨hs.cached value hcached, hs.returned⟩ }
  · refine { hs with calls := fun other point hpoint ↦ ?_ }
    rcases KeyMap.get_insert_eq_some.mp hpoint with ⟨-, rfl⟩ | ⟨-, hold⟩
    · exact hkeeps.start argument
    · exact hs.calls other point hold
  · obtain ⟨hsound, hnext⟩ := hkeeps.advance draw s.stored q hs.stored (hs.calls c _ hget)
    refine { hs with stored := hsound, calls := fun other point hpoint ↦ ?_ }
    rcases KeyMap.get_insert_eq_some.mp hpoint with ⟨-, rfl⟩ | ⟨-, hold⟩
    · exact hnext
    · exact hs.calls other point hold
  · have hgood : Good value := hs.calls c _ hget
    exact {
      stored := hs.stored
      cached := fun other hother ↦ Option.some.inj hother ▸ hgood
      calls := fun other point hpoint ↦
        hs.calls other point (KeyMap.get_remove_eq_some.mp hpoint).2
      returned := List.forall_mem_cons.mpr ⟨hgood, hs.returned⟩ }
  · exact { hs with
      calls := fun other point hpoint ↦
        hs.calls other point (KeyMap.get_remove_eq_some.mp hpoint).2 }
  · exact { hs with cached := fun _ h ↦ (by cases h), calls := fun _ _ h ↦ (by cases h) }

/-- Every value that is returned has the property. -/
theorem Keeps.run (hkeeps : g.Keeps Sound At Good) {p : P} (hp : Sound p)
    {labels : List (Label α D)} (hrun : Run.exec g.step { stored := p } labels = some t) :
    ∀ value ∈ t.returned, Good value :=
  (Run.invariant (Holds Sound At Good) (fun _ _ _ ↦ hkeeps.step) hrun {
    stored := hp
    cached := fun _ h ↦ by cases h
    calls := fun _ _ h ↦ by cases h
    returned := fun _ h ↦ by cases h }).returned

/-! ## That it is always the same -/

variable (g)

/-- As long as nothing has been returned, no call begins beside another one. -/
def Alone (s : Machine P Q V) (label : Label α D) : Prop :=
  ∀ c argument, label = .call c argument → s.returned = [] → ∀ other, s.calls.get other = none

/-- The store is settled on a value when a call can only find this value and leaves it there.
`Ready` is a store that a call may come to, `Lone` a store with the only call at a point. -/
structure Settles (Ready : P → Prop) (Lone : P → Q → Prop) (Settled : P → V → Prop)
    (Safe : V → Q → Prop) : Prop where
  lone_start : ∀ p argument, Ready p → Lone p (g.start argument)
  lone_advance : ∀ draw p q, Lone p q →
    Sum.elim (Lone (g.advance draw p q).1) (Settled (g.advance draw p q).1) (g.advance draw p q).2
  ready_of_lone : ∀ p q, Lone p q → Ready p
  ready_of_settled : ∀ p value, Settled p value → Ready p
  safe_start : ∀ value argument, Safe value (g.start argument)
  safe_advance : ∀ draw p q value, Settled p value → Safe value q →
    Settled (g.advance draw p q).1 value ∧
      Sum.elim (Safe value) (fun found ↦ found = value) (g.advance draw p q).2

/-- Nothing has been returned, and at most one call is under way. -/
structure Fresh (Ready : P → Prop) (Lone : P → Q → Prop) (Settled : P → V → Prop)
    (s : Machine P Q V) : Prop where
  returned : s.returned = []
  cached : s.cached = none
  ready : Ready s.stored
  single : ∀ c point, s.calls.get c = some point → ∀ other, other ≠ c → s.calls.get other = none
  call : ∀ c point, s.calls.get c = some point →
    Sum.elim (Lone s.stored) (Settled s.stored) point

/-- Every call that is under way or begins finds the value. -/
structure Fixed (Settled : P → V → Prop) (Safe : V → Q → Prop) (value : V) (s : Machine P Q V) :
    Prop where
  stored : Settled s.stored value
  cached : ∀ found, s.cached = some found → found = value
  calls : ∀ c point, s.calls.get c = some point →
    Sum.elim (Safe value) (fun found ↦ found = value) point
  returned : ∀ found ∈ s.returned, found = value

variable {g} {Ready : P → Prop} {Lone : P → Q → Prop} {Settled : P → V → Prop}
  {Safe : V → Q → Prop} {value : V}

/-- A fixed value stays, whatever the calls do. -/
theorem Settles.fixed_step (hsettles : g.Settles Ready Lone Settled Safe) {label : Label α D}
    (hs : Fixed Settled Safe value s) (h : g.step s label = some t) :
    Fixed Settled Safe value t := by
  rcases g.step_cases h with ⟨c, argument, found, -, hcached, rfl⟩ | ⟨c, argument, -, -, rfl⟩ |
    ⟨c, draw, q, hget, rfl⟩ | ⟨c, found, hget, rfl⟩ | ⟨c, rfl⟩ | rfl
  · exact { hs with returned := List.forall_mem_cons.mpr ⟨hs.cached found hcached, hs.returned⟩ }
  · refine { hs with calls := fun other point hpoint ↦ ?_ }
    rcases KeyMap.get_insert_eq_some.mp hpoint with ⟨-, rfl⟩ | ⟨-, hold⟩
    · exact hsettles.safe_start value argument
    · exact hs.calls other point hold
  · obtain ⟨hstored, hnext⟩ :=
      hsettles.safe_advance draw s.stored q value hs.stored (hs.calls c _ hget)
    refine { hs with stored := hstored, calls := fun other point hpoint ↦ ?_ }
    rcases KeyMap.get_insert_eq_some.mp hpoint with ⟨-, rfl⟩ | ⟨-, hold⟩
    · exact hnext
    · exact hs.calls other point hold
  · have hsame : found = value := hs.calls c _ hget
    exact {
      stored := hs.stored
      cached := fun other hother ↦ (Option.some.inj hother).symm.trans hsame
      calls := fun other point hpoint ↦
        hs.calls other point (KeyMap.get_remove_eq_some.mp hpoint).2
      returned := List.forall_mem_cons.mpr ⟨hsame, hs.returned⟩ }
  · exact { hs with
      calls := fun other point hpoint ↦
        hs.calls other point (KeyMap.get_remove_eq_some.mp hpoint).2 }
  · exact { hs with cached := fun _ h ↦ (by cases h), calls := fun _ _ h ↦ (by cases h) }

/-- The first call to return fixes its value. -/
theorem Settles.fresh_step (hsettles : g.Settles Ready Lone Settled Safe) {label : Label α D}
    (hs : Fresh Ready Lone Settled s) (halone : Alone s label) (h : g.step s label = some t) :
    Fresh Ready Lone Settled t ∨ ∃ value, Fixed Settled Safe value t := by
  rcases g.step_cases h with ⟨c, argument, found, -, hcached, rfl⟩ |
    ⟨c, argument, hlabel, -, rfl⟩ | ⟨c, draw, q, hget, rfl⟩ | ⟨c, found, hget, rfl⟩ | ⟨c, rfl⟩ | rfl
  · rw [hs.cached] at hcached
    cases hcached
  · have hnone := halone c argument hlabel hs.returned
    refine .inl { hs with
      single := fun other point hpoint ↦ ?_
      call := fun other point hpoint ↦ ?_ }
    all_goals
      rcases KeyMap.get_insert_eq_some.mp hpoint with ⟨rfl, rfl⟩ | ⟨-, hold⟩
    · exact fun third hthird ↦ (KeyMap.get_insert_of_ne _ _ hthird).trans (hnone third)
    · rw [hnone] at hold
      cases hold
    · exact hsettles.lone_start s.stored argument hs.ready
    · rw [hnone] at hold
      cases hold
  · have hnext := hsettles.lone_advance draw s.stored q (hs.call c _ hget)
    have hready : Ready (g.advance draw s.stored q).1 := by
      cases hpoint : (g.advance draw s.stored q).2 with
      | inl next =>
        rw [hpoint] at hnext
        exact hsettles.ready_of_lone _ _ hnext
      | inr found =>
        rw [hpoint] at hnext
        exact hsettles.ready_of_settled _ _ hnext
    have honly := hs.single c _ hget
    refine .inl {
      returned := hs.returned
      cached := hs.cached
      ready := hready
      single := fun other point hpoint ↦ ?_
      call := fun other point hpoint ↦ ?_ }
    all_goals
      rcases KeyMap.get_insert_eq_some.mp hpoint with ⟨rfl, rfl⟩ | ⟨hne, hold⟩
    · exact fun third hthird ↦ (KeyMap.get_insert_of_ne _ _ hthird).trans (honly third hthird)
    · rw [honly other hne] at hold
      cases hold
    · exact hnext
    · rw [honly other hne] at hold
      cases hold
  · have hnone : ∀ other point, (s.calls.remove c).get other = some point → False := by
      intro other point hpoint
      obtain ⟨hne, hold⟩ := KeyMap.get_remove_eq_some.mp hpoint
      rw [hs.single c _ hget other hne] at hold
      cases hold
    refine .inr ⟨found, {
      stored := hs.call c _ hget
      cached := fun other hother ↦ (Option.some.inj hother).symm
      calls := fun other point hpoint ↦ (hnone other point hpoint).elim
      returned := ?_ }⟩
    rw [hs.returned]
    exact fun other hother ↦ List.mem_singleton.mp hother
  · refine .inl { hs with
      single := fun other point hpoint ↦ ?_
      call := fun other point hpoint ↦ ?_ }
    · intro third hthird
      rw [KeyMap.get_remove]
      split_ifs
      · rfl
      · exact hs.single other point (KeyMap.get_remove_eq_some.mp hpoint).2 third hthird
    · exact hs.call other point (KeyMap.get_remove_eq_some.mp hpoint).2
  · exact .inl { hs with
      cached := rfl
      single := fun _ _ h ↦ (by cases h)
      call := fun _ _ h ↦ (by cases h) }

/-- All calls return one value when none begins beside another one before the first has returned. -/
theorem Settles.run [Inhabited V] (hsettles : g.Settles Ready Lone Settled Safe) {p : P}
    (hp : Ready p) {labels : List (Label α D)}
    (halone : Run.Throughout g.step Alone { stored := p } labels)
    (hrun : Run.exec g.step { stored := p } labels = some t) :
    ∃ value, ∀ found ∈ t.returned, found = value := by
  have hinv : Fresh Ready Lone Settled t ∨ ∃ value, Fixed Settled Safe value t := by
    refine Run.invariant_of_throughout
      (fun s ↦ Fresh Ready Lone Settled s ∨ ∃ value, Fixed Settled Safe value s)
      (fun s label next hs hguard hstep ↦ ?_) halone hrun (.inl ?_)
    · rcases hs with hfresh | ⟨value, hfixed⟩
      · exact hsettles.fresh_step hfresh hguard hstep
      · exact .inr ⟨value, hsettles.fixed_step hfixed hstep⟩
    · exact {
        returned := rfl
        cached := rfl
        ready := hp
        single := fun _ _ h ↦ by cases h
        call := fun _ _ h ↦ by cases h }
  rcases hinv with hfresh | ⟨value, hfixed⟩
  · refine ⟨default, fun found hfound ↦ ?_⟩
    rw [hfresh.returned] at hfound
    cases hfound
  · exact ⟨value, hfixed.returned⟩

end Getter

end PhoneBridge.Library.GetOrCreate
