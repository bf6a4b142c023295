import Mathlib.Control.Lawful

/-!
# Rules for programs over a state

Two views of a program over a state. `Computes view task before a after` says that, started where
the viewed part of the state is `before`, it returns `a` and leaves the part as `after`. `Emits trace
task post` is for a state that holds a trace of effects: every run only adds effects to the trace,
and the result and the added effects meet `post`, whatever else happens to the state. Each has a rule
for returning and one for sequencing.
-/

namespace PhoneBridge.Library

variable {σ τ ε α β : Type}

/-- From every state with this view the program returns this value and reaches this view. -/
def Computes (view : σ → τ) (task : StateM σ α) (before : τ) (a : α) (after : τ) : Prop :=
  ∀ s, view s = before → (task.run s).1 = a ∧ view (task.run s).2 = after

namespace Computes

variable {view : σ → τ} {task : StateM σ α} {next : α → StateM σ β} {before middle after : τ}
  {a : α} {b : β}

theorem pure : Computes view (Pure.pure a) before a before := fun _ hs ↦ ⟨rfl, hs⟩

theorem bind (h : Computes view task before a middle)
    (hnext : Computes view (next a) middle b after) :
    Computes view (task >>= next) before b after := by
  intro s hs
  obtain ⟨hvalue, hmiddle⟩ := h s hs
  have hrun : (task >>= next).run s = (next a).run (task.run s).2 := by
    rw [← hvalue]
    rfl
  rw [hrun]
  exact hnext _ hmiddle

end Computes

/-- Every run adds effects that meet the postcondition together with the result. -/
def Emits (trace : σ → List ε) (task : StateM σ α) (post : α → List ε → Prop) : Prop :=
  ∀ s, ∃ effects, trace (task.run s).2 = trace s ++ effects ∧ post (task.run s).1 effects

namespace Emits

variable {trace : σ → List ε} {task : StateM σ α} {next : α → StateM σ β}
  {post mid : α → List ε → Prop}

theorem mono (h : Emits trace task mid) (himp : ∀ a effects, mid a effects → post a effects) :
    Emits trace task post := by
  intro s
  obtain ⟨effects, htrace, hmid⟩ := h s
  exact ⟨effects, htrace, himp _ _ hmid⟩

/-- The effects that a run adds are determined, so two postconditions hold of the same ones. -/
theorem and (h : Emits trace task post) (h' : Emits trace task mid) :
    Emits trace task fun a effects ↦ post a effects ∧ mid a effects := by
  intro s
  obtain ⟨effects, htrace, hpost⟩ := h s
  obtain ⟨effects', htrace', hmid⟩ := h' s
  have hsame : effects = effects' := List.append_cancel_left (htrace.symm.trans htrace')
  exact ⟨effects, htrace, hpost, hsame ▸ hmid⟩

theorem pure {a : α} (h : post a []) : Emits trace (Pure.pure a) post := by
  intro s
  exact ⟨[], (List.append_nil _).symm, h⟩

/-- What the second program adds comes after what the first one has added. -/
theorem bind {post : β → List ε → Prop} (h : Emits trace task mid)
    (hnext : ∀ a first, mid a first →
      Emits trace (next a) fun b second ↦ post b (first ++ second)) :
    Emits trace (task >>= next) post := by
  intro s
  obtain ⟨first, hfirst, hmid⟩ := h s
  obtain ⟨second, hsecond, hpost⟩ := hnext _ first hmid (task.run s).2
  refine ⟨first ++ second, ?_, hpost⟩
  calc trace ((task >>= next).run s).2
    _ = trace ((next (task.run s).1).run (task.run s).2).2 := rfl
    _ = trace (task.run s).2 ++ second := hsecond
    _ = trace s ++ (first ++ second) := by rw [hfirst, List.append_assoc]

end Emits

end PhoneBridge.Library
