import Mathlib.Data.List.Basic

/-!
# The last event of a kind

A log of events, its last event of some kind, and the events after that.
-/

namespace PhoneBridge.Library

variable {ι : Type*} {kind : ι → Prop} {log : List ι} {event : ι} {rest : List ι}

/-- `event` is the last one of its kind in the log, and `rest` comes after it. -/
structure LastOf (kind : ι → Prop) (log : List ι) (event : ι) (rest : List ι) : Prop where
  split : ∃ front, log = front ++ event :: rest
  holds : kind event
  none_after : ∀ later ∈ rest, ¬ kind later

/-- A log with an event of the kind has a last one. -/
theorem exists_lastOf (h : ∃ e ∈ log, kind e) : ∃ event rest, LastOf kind log event rest := by
  induction log with
  | nil =>
    obtain ⟨e, hmem, -⟩ := h
    exact absurd hmem List.not_mem_nil
  | cons first log ih =>
    by_cases hlater : ∃ e ∈ log, kind e
    · obtain ⟨event, rest, ⟨front, hsplit⟩, hkind, hnone⟩ := ih hlater
      exact ⟨event, rest, ⟨first :: front, by rw [hsplit, List.cons_append]⟩, hkind, hnone⟩
    · obtain ⟨e, hmem, hkind⟩ := h
      rcases List.mem_cons.mp hmem with rfl | hmem
      · exact ⟨e, log, ⟨[], rfl⟩, hkind, fun later hin hk ↦ hlater ⟨later, hin, hk⟩⟩
      · exact absurd ⟨e, hmem, hkind⟩ hlater

/-- A new event of the kind is the last one. -/
theorem lastOf_concat (log : List ι) (h : kind event) : LastOf kind (log ++ [event]) event [] where
  split := ⟨log, rfl⟩
  holds := h
  none_after := List.forall_mem_nil _

/-- A new event of another kind changes nothing about the last one. -/
theorem LastOf.concat (h : LastOf kind log event rest) {other : ι} (hother : ¬ kind other) :
    LastOf kind (log ++ [other]) event (rest ++ [other]) where
  split := by
    obtain ⟨front, rfl⟩ := h.split
    exact ⟨front, by rw [List.append_assoc, List.cons_append]⟩
  holds := h.holds
  none_after := by
    intro later hlater
    rcases List.mem_append.mp hlater with hrest | hlast
    · exact h.none_after later hrest
    · rwa [List.mem_singleton.mp hlast]

/-- The end of a log has its last event of a kind as soon as it has any. -/
theorem LastOf.mem_of_mem (h : LastOf kind log event rest) {front back : List ι}
    (hlog : log = front ++ back) (hback : ∃ e ∈ back, kind e) : event ∈ back := by
  obtain ⟨before, hsplit⟩ := h.split
  rcases List.append_eq_append_iff.mp (hlog.symm.trans hsplit) with
    ⟨middle, -, htail⟩ | ⟨middle, -, htail⟩
  · rw [htail]
    exact List.mem_append_right middle List.mem_cons_self
  · cases middle with
    | nil =>
      rw [List.nil_append] at htail
      rw [← htail]
      exact List.mem_cons_self
    | cons first middle =>
      obtain ⟨e, hmem, hkind⟩ := hback
      obtain ⟨-, hrest⟩ := List.cons.inj htail
      rw [hrest] at h
      exact absurd hkind (h.none_after e (List.mem_append_right middle hmem))

end PhoneBridge.Library
