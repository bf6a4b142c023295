import PhoneBridge.Library.Broadcast
import PhoneBridge.Library.Conveyor

/-!
# What a broadcast receiver has received

The receipts of a receiver, read from the oldest to the newest, account for the events that were
sent since it was opened: each of them once, in the order in which they were sent, as an event or as
one of those that it was too late for.
-/

namespace PhoneBridge.Library.Broadcast

variable {ρ ε : Type*}

/-- The numbers of the events that a receipt accounts for. -/
def Receipt.span (capacity : Nat) : Receipt ε → List Nat
  | .event number _ => [number]
  | .lagged next behind => List.range' next (behind - capacity)

def Receipt.received : Receipt ε → Option ε
  | .event _ e => some e
  | .lagged .. => none

namespace Receiver

/-- The receipts, oldest first. -/
def history (receiver : Receiver ε) : List (Receipt ε) := receiver.receipts.reverse

/-- The events that have been received, oldest first. -/
def events (receiver : Receiver ε) : List ε := receiver.history.filterMap Receipt.received

/-- Has the receiver been told that it fell behind? -/
def Lagged (receiver : Receiver ε) : Prop := ∃ next behind, .lagged next behind ∈ receiver.receipts

variable {next : Nat}

@[simp]
theorem history_cons (receipts : List (Receipt ε)) (receipt : Receipt ε) :
    history { next, receipts := receipt :: receipts } = receipts.reverse ++ [receipt] :=
  List.reverse_cons

/-- A receipt adds the event that it brings. -/
theorem events_cons (receiver : Receiver ε) (receipt : Receipt ε) :
    events { next, receipts := receipt :: receiver.receipts } =
      receiver.events ++ receipt.received.toList := by
  simp only [events, history_cons, List.filterMap_append]
  cases receipt <;> rfl

end Receiver

namespace Channel

/-- The receipts account for what has been sent since the receiver was opened, when `first` events
had been sent. -/
structure Accounts (c : Channel ρ ε) (receiver : Receiver ε) (first : Nat) : Prop where
  first_le : first ≤ receiver.next
  next_le : receiver.next ≤ c.sent.length
  spans : receiver.history.flatMap (Receipt.span c.capacity) =
    List.range' first (receiver.next - first)
  truthful : ∀ number event, .event number event ∈ receiver.receipts →
    c.sent[number]? = some event

section Rules

variable {c c' : Channel ρ ε} {receiver : Receiver ε} {first : Nat} {r other : ρ} {event : ε}

theorem accounts_opened (h : first ≤ c.sent.length) :
    c.Accounts { next := first, receipts := [] } first where
  first_le := Nat.le_refl _
  next_le := h
  spans := by simp [Receiver.history]
  truthful _ _ h := by cases h

/-- More events and other receivers change nothing. -/
theorem Accounts.of_sent (h : c.Accounts receiver first) (hcapacity : c'.capacity = c.capacity)
    (hsent : c.sent <+: c'.sent) : c'.Accounts receiver first where
  first_le := h.first_le
  next_le := Nat.le_trans h.next_le hsent.length_le
  spans := hcapacity ▸ h.spans
  truthful number event hevent := by
    have hbefore := h.truthful number event hevent
    obtain ⟨hlt, -⟩ := List.getElem?_eq_some_iff.mp hbefore
    obtain ⟨more, hmore⟩ := hsent
    rw [← hmore, List.getElem?_append_left hlt]
    exact hbefore

theorem sent_prefix_send (c : Channel ρ ε) (event : ε) : c.sent <+: (c.send event).2.sent := by
  unfold Channel.send
  split_ifs
  · exact List.prefix_refl _
  · exact List.prefix_append _ _

@[simp]
theorem capacity_send (c : Channel ρ ε) (event : ε) : (c.send event).2.capacity = c.capacity := by
  unfold Channel.send
  split_ifs <;> rfl

/-- A reception accounts for the next event, or for those that it skips. -/
theorem Accounts.received (h : c.Accounts receiver first) {next : Nat} {receipt : Receipt ε}
    (hcase : c.capacity < c.sent.length - receiver.next ∧ next = c.sent.length - c.capacity ∧
        receipt = .lagged receiver.next (c.sent.length - receiver.next) ∨
      ∃ event, c.sent[receiver.next]? = some event ∧ next = receiver.next + 1 ∧
        receipt = .event receiver.next event) :
    c.Accounts { next, receipts := receipt :: receiver.receipts } first := by
  have hfirst := h.first_le
  have hspan : receiver.next ≤ next ∧ next ≤ c.sent.length ∧
      receipt.span c.capacity = List.range' receiver.next (next - receiver.next) := by
    rcases hcase with ⟨hlag, rfl, rfl⟩ | ⟨event, hevent, rfl, rfl⟩
    · refine ⟨by omega, Nat.sub_le _ _, congrArg (List.range' receiver.next ·) ?_⟩
      omega
    · obtain ⟨hlt, -⟩ := List.getElem?_eq_some_iff.mp hevent
      refine ⟨Nat.le_succ _, hlt, ?_⟩
      rw [Nat.add_sub_cancel_left]
      rfl
  obtain ⟨hgrows, hbound, hspan⟩ := hspan
  refine ⟨Nat.le_trans hfirst hgrows, hbound, ?_, fun number event hevent ↦ ?_⟩
  · rw [Receiver.history_cons, List.flatMap_append, List.flatMap_singleton, hspan]
    have hpast : receiver.receipts.reverse.flatMap (Receipt.span c.capacity) = _ := h.spans
    have hjoin : receiver.next = first + (receiver.next - first) := by omega
    rw [hpast]
    conv_lhs =>
      rhs
      rw [hjoin]
    rw [List.range'_append_1]
    congr 1
    change receiver.next - first + (next - (first + (receiver.next - first))) = next - first
    omega
  · rcases List.mem_cons.mp hevent with rfl | hpast
    · rcases hcase with ⟨-, -, hreceipt⟩ | ⟨received, hsent, -, hreceipt⟩
      · cases hreceipt
      · cases hreceipt
        exact hsent
    · exact h.truthful number event hpast

/-! ## What follows -/

/-- Consecutive numbers name consecutive events. -/
theorem filterMap_sent (sent : List ε) (first k : Nat) :
    (List.range' first k).filterMap (sent[·]?) = (sent.drop first).take k := by
  induction k generalizing first with
  | zero => rfl
  | succ k ih =>
    rw [List.range'_succ, List.filterMap_cons, ih]
    cases hevent : sent[first]? with
    | none =>
      have hend : sent.length ≤ first := List.getElem?_eq_none_iff.mp hevent
      simp [List.drop_eq_nil_of_le hend, List.drop_eq_nil_of_le (Nat.le_succ_of_le hend)]
    | some event =>
      obtain ⟨hlt, rfl⟩ := List.getElem?_eq_some_iff.mp hevent
      rw [List.drop_eq_getElem_cons hlt, List.take_succ_cons]

/-- The numbers of the events among the receipts. -/
def numbers (history : List (Receipt ε)) : List Nat :=
  history.filterMap fun
    | .event number _ => some number
    | .lagged .. => none

theorem numbers_sublist (capacity : Nat) (history : List (Receipt ε)) :
    (numbers history).Sublist (history.flatMap (Receipt.span capacity)) := by
  induction history with
  | nil => exact List.Sublist.slnil
  | cons receipt history ih =>
    rw [List.flatMap_cons]
    cases receipt with
    | event number event => exact ih.cons_cons number
    | lagged next behind => exact ih.trans (List.sublist_append_right _ _)

/-- The events received are the ones that their numbers name. -/
theorem Accounts.events_eq (h : c.Accounts receiver first) :
    receiver.events = (numbers receiver.history).filterMap (c.sent[·]?) := by
  have htruthful : ∀ number event, .event number event ∈ receiver.history →
      c.sent[number]? = some event :=
    fun number event hevent ↦ h.truthful number event (List.mem_reverse.mp hevent)
  unfold Receiver.events
  generalize receiver.history = history at htruthful ⊢
  induction history with
  | nil => rfl
  | cons receipt history ih =>
    have hrest := ih fun number event hevent ↦
      htruthful number event (List.mem_cons_of_mem _ hevent)
    cases receipt with
    | event number event =>
      have hsent := htruthful number event List.mem_cons_self
      simp only [numbers, List.filterMap_cons, Receipt.received, hsent] at hrest ⊢
      rw [hrest]
    | lagged next behind => exact hrest

/-- The events received are in order among those sent since the receiver was opened. -/
theorem Accounts.events_sublist (h : c.Accounts receiver first) :
    receiver.events.Sublist ((c.sent.drop first).take (receiver.next - first)) := by
  rw [h.events_eq, ← filterMap_sent]
  exact (h.spans ▸ numbers_sublist c.capacity receiver.history).filterMap _

/-- A receiver that never fell behind has received everything up to where it stands. -/
theorem Accounts.events_eq_take (h : c.Accounts receiver first) (hlagged : ¬ receiver.Lagged) :
    receiver.events = (c.sent.drop first).take (receiver.next - first) := by
  have hnumbers : numbers receiver.history =
      receiver.history.flatMap (Receipt.span c.capacity) := by
    have hevents : ∀ next behind, .lagged next behind ∉ receiver.history :=
      fun next behind hmem ↦ hlagged ⟨next, behind, List.mem_reverse.mp hmem⟩
    generalize receiver.history = history at hevents ⊢
    induction history with
    | nil => rfl
    | cons receipt history ih =>
      have hrest := ih fun next behind hmem ↦ hevents next behind (List.mem_cons_of_mem _ hmem)
      cases receipt with
      | event number event =>
        rw [List.flatMap_cons, ← hrest]
        rfl
      | lagged next behind => exact absurd List.mem_cons_self (hevents next behind)
  rw [h.events_eq, hnumbers, h.spans, filterMap_sent]

/-! ### What is passed on -/

section PassedOn

variable {intact : Prop} {left carried : List ε}

/-- What leaves a conveyor that is loaded by a receiver comes in the order of the channel, each
event once. -/
theorem Accounts.left_sublist (h : c.Accounts receiver first)
    (hconveys : Conveyor.Conveys intact receiver.events left carried) :
    left.Sublist (c.sent.drop first) :=
  calc
    left.Sublist receiver.events := hconveys.left_prefix.sublist
    _ |>.Sublist _ := h.events_sublist
    _ |>.Sublist _ := List.take_sublist _ _

/-- An intact conveyor and a receiver that never lagged lose nothing. -/
theorem Accounts.complete (h : c.Accounts receiver first)
    (hconveys : Conveyor.Conveys intact receiver.events left carried) (hintact : intact)
    (hlagged : ¬ receiver.Lagged) :
    left ++ carried ++ c.sent.drop receiver.next = c.sent.drop first := by
  have hfirst := h.first_le
  have hrest : c.sent.drop receiver.next =
      (c.sent.drop first).drop (receiver.next - first) := by
    rw [List.drop_drop]
    congr 1
    omega
  rw [hconveys.complete hintact, h.events_eq_take hlagged, hrest, List.take_append_drop]

end PassedOn

end Rules

end Channel

end PhoneBridge.Library.Broadcast
