import Mathlib.Data.List.Basic
import PhoneBridge.Library.KeyMap

/-!
# Broadcast channels

Every event that is sent goes to each receiver that is open at that time. A receiver that falls
behind by more than the capacity loses the oldest of the events it has not received.
-/

namespace PhoneBridge.Library.Broadcast

/-- What a receiver has received: an event with its number, or that it was `behind` events late at
the event `next`. -/
inductive Receipt (ε : Type*)
  | event (number : Nat) (event : ε)
  | lagged (next behind : Nat)

/-- The number of the event to receive next, and what has been received. -/
structure Receiver (ε : Type*) where
  next : Nat
  receipts : List (Receipt ε)

/-- Has the receiver received an event, or lost it by falling behind too far? -/
def Receiver.Settled {ε : Type*} (receiver : Receiver ε) (capacity number : Nat) (event : ε) : Prop :=
  .event number event ∈ receiver.receipts ∨
    ∃ next behind, .lagged next behind ∈ receiver.receipts ∧ capacity < behind ∧ next ≤ number ∧
      number < next + (behind - capacity)

/-- What has been settled stays so. -/
theorem Receiver.Settled.cons {ε : Type*} {capacity next number : Nat} {receiver : Receiver ε}
    {event : ε}
    (h : receiver.Settled capacity number event) (receipt : Receipt ε) :
    Receiver.Settled { next, receipts := receipt :: receiver.receipts } capacity number event := by
  rcases h with hevent | ⟨first, behind, hlagged, hlost⟩
  · exact .inl (List.mem_cons_of_mem _ hevent)
  · exact .inr ⟨first, behind, List.mem_cons_of_mem _ hlagged, hlost⟩

/-- A channel; the receivers that have been closed keep what they had received. -/
structure Channel (ρ ε : Type*) where
  capacity : Nat
  sent : List ε
  opened : List ρ
  receivers : KeyMap ρ (Receiver ε)

namespace Channel

variable {ρ ε : Type*}

def empty (capacity : Nat) : Channel ρ ε where
  capacity := capacity
  sent := []
  opened := []
  receivers := .empty

/-- Send an event to all open receivers; the result is their number. -/
def send (c : Channel ρ ε) (event : ε) : Option Nat × Channel ρ ε :=
  if c.opened = [] then (none, c)
  else (some c.opened.length, { c with sent := c.sent ++ [event] })

variable [DecidableEq ρ]

/-- Open a receiver for what is sent from now on. -/
def subscribe (c : Channel ρ ε) (r : ρ) : Channel ρ ε :=
  { c with
    opened := r :: c.opened
    receivers := c.receivers.insert r { next := c.sent.length, receipts := [] } }

def close (c : Channel ρ ε) (r : ρ) : Channel ρ ε := { c with opened := c.opened.erase r }

/-- Receive the next event, or learn that events have been lost; `none` when there is nothing to
receive. -/
def recv (c : Channel ρ ε) (r : ρ) : Option (Channel ρ ε) :=
  (c.receivers.get r).bind fun receiver ↦
    let behind := c.sent.length - receiver.next
    let received (next : Nat) (receipt : Receipt ε) : Channel ρ ε :=
      { c with receivers := c.receivers.insert r {
        next, receipts := receipt :: receiver.receipts } }
    if c.capacity < behind then
      some (received (c.sent.length - c.capacity) (.lagged receiver.next behind))
    else (c.sent[receiver.next]?).map fun event ↦
      received (receiver.next + 1) (.event receiver.next event)

/-- The receiver will be given what is sent now. -/
def Listening (c : Channel ρ ε) (r : ρ) : Prop :=
  r ∈ c.opened ∧ ∃ receiver, c.receivers.get r = some receiver ∧ receiver.next ≤ c.sent.length

/-- An event has been delivered to a receiver: it is still to come, or it has been received, or the
receiver has lost it by falling behind by more than the capacity. -/
def Delivers (c : Channel ρ ε) (r : ρ) (number : Nat) (event : ε) : Prop :=
  c.sent[number]? = some event ∧ ∃ receiver, c.receivers.get r = some receiver ∧
    (receiver.next ≤ number ∨ receiver.Settled c.capacity number event)

section Rules

variable {c c' : Channel ρ ε} {r other : ρ} {number : Nat} {event : ε}

theorem listening_subscribe (c : Channel ρ ε) (r : ρ) : (c.subscribe r).Listening r :=
  ⟨List.mem_cons_self, _, KeyMap.get_insert_self _ _ _, Nat.le_refl _⟩

theorem Listening.subscribe (h : c.Listening r) (hne : r ≠ other) :
    (c.subscribe other).Listening r := by
  obtain ⟨hopened, receiver, hget, hnext⟩ := h
  exact ⟨List.mem_cons_of_mem _ hopened, receiver,
    (KeyMap.get_insert_of_ne _ _ hne).trans hget, hnext⟩

theorem Listening.close (h : c.Listening r) (hne : r ≠ other) : (c.close other).Listening r :=
  ⟨(List.mem_erase_of_ne hne).mpr h.1, h.2⟩

omit [DecidableEq ρ] in
theorem Listening.opened_ne_nil (h : c.Listening r) : c.opened ≠ [] := List.ne_nil_of_mem h.1

omit [DecidableEq ρ] in
theorem send_of_listening (h : c.Listening r) :
    c.send event = (some c.opened.length, { c with sent := c.sent ++ [event] }) :=
  if_neg h.opened_ne_nil

omit [DecidableEq ρ] in
@[simp]
theorem receivers_send : (c.send event).2.receivers = c.receivers := by
  unfold Channel.send
  split_ifs <;> rfl

omit [DecidableEq ρ] in
theorem Listening.send (h : c.Listening r) : (c.send event).2.Listening r := by
  obtain ⟨hopened, receiver, hget, hnext⟩ := id h
  rw [send_of_listening h]
  refine ⟨hopened, receiver, hget, ?_⟩
  rw [List.length_append]
  exact Nat.le_add_right_of_le hnext

/-- What a reception changes. -/
theorem recv_cases (h : c.recv r = some c') : ∃ receiver next receipt,
    c.receivers.get r = some receiver ∧
      c' = { c with receivers := c.receivers.insert r {
        next, receipts := receipt :: receiver.receipts } } ∧
      (c.capacity < c.sent.length - receiver.next ∧ next = c.sent.length - c.capacity ∧
          receipt = .lagged receiver.next (c.sent.length - receiver.next) ∨
        ∃ event, c.sent[receiver.next]? = some event ∧ next = receiver.next + 1 ∧
          receipt = .event receiver.next event) := by
  obtain ⟨receiver, hget, h⟩ := Option.bind_eq_some_iff.mp h
  simp only at h
  split_ifs at h with hlag
  · obtain rfl := Option.some.inj h
    exact ⟨receiver, _, _, hget, rfl, .inl ⟨hlag, rfl, rfl⟩⟩
  · obtain ⟨event, hevent, rfl⟩ := Option.map_eq_some_iff.mp h
    exact ⟨receiver, _, _, hget, rfl, .inr ⟨event, hevent, rfl, rfl⟩⟩

/-- A reception opens no receiver. -/
theorem get_recv_eq_none (hrecv : c.recv other = some c') (h : c.receivers.get r = none) :
    c'.receivers.get r = none := by
  obtain ⟨receiver, next, receipt, hget, rfl, -⟩ := recv_cases hrecv
  refine (KeyMap.get_insert_of_ne _ _ ?_).trans h
  rintro rfl
  rw [h] at hget
  cases hget

theorem Listening.recv (h : c.Listening r) (hrecv : c.recv other = some c') : c'.Listening r := by
  obtain ⟨hopened, listener, hlistener, hbound⟩ := h
  obtain ⟨receiver, next, receipt, hget, rfl, hcase⟩ := recv_cases hrecv
  by_cases hsame : r = other
  · subst hsame
    refine ⟨hopened, _, KeyMap.get_insert_self _ _ _, ?_⟩
    rcases hcase with ⟨-, rfl, -⟩ | ⟨event, hevent, rfl, -⟩
    · exact Nat.sub_le _ _
    · exact (List.getElem?_eq_some_iff.mp hevent).1
  · exact ⟨hopened, listener, (KeyMap.get_insert_of_ne _ _ hsame).trans hlistener, hbound⟩

omit [DecidableEq ρ] in
/-- What is sent is delivered to the receivers that listen. -/
theorem delivers_send (h : c.Listening r) :
    (c.send event).2.Delivers r c.sent.length event := by
  obtain ⟨-, receiver, hget, hnext⟩ := id h
  rw [send_of_listening h]
  exact ⟨by simp, receiver, hget, .inl hnext⟩

theorem Delivers.subscribe (h : c.Delivers r number event) (hne : r ≠ other) :
    (c.subscribe other).Delivers r number event := by
  obtain ⟨hsent, receiver, hget, hreceived⟩ := h
  exact ⟨hsent, receiver, (KeyMap.get_insert_of_ne _ _ hne).trans hget, hreceived⟩

theorem Delivers.close (h : c.Delivers r number event) : (c.close other).Delivers r number event :=
  h

omit [DecidableEq ρ] in
theorem Delivers.send {later : ε} (h : c.Delivers r number event) :
    (c.send later).2.Delivers r number event := by
  unfold Channel.send
  split_ifs
  · exact h
  · obtain ⟨hsent, hreceived⟩ := h
    obtain ⟨hlt, -⟩ := List.getElem?_eq_some_iff.mp hsent
    exact ⟨(List.getElem?_append_left hlt).trans hsent, hreceived⟩

theorem Delivers.recv (h : c.Delivers r number event) (hrecv : c.recv other = some c') :
    c'.Delivers r number event := by
  obtain ⟨hsent, listener, hlistener, hreceived⟩ := h
  obtain ⟨receiver, next, receipt, hget, rfl, hcase⟩ := recv_cases hrecv
  refine ⟨hsent, ?_⟩
  by_cases hsame : r = other
  · subst hsame
    obtain rfl := Option.some.inj (hlistener.symm.trans hget)
    refine ⟨_, KeyMap.get_insert_self _ _ _, ?_⟩
    rcases hreceived with hpending | hsettled
    · rcases hcase with ⟨hlag, rfl, rfl⟩ | ⟨received, hevent, rfl, rfl⟩
      · by_cases hkept : c.sent.length - c.capacity ≤ number
        · exact .inl hkept
        · refine .inr (.inr ⟨_, _, List.mem_cons_self, hlag, hpending, ?_⟩)
          change number < listener.next + (c.sent.length - listener.next - c.capacity)
          omega
      · rcases Nat.lt_or_eq_of_le hpending with hlater | rfl
        · exact .inl hlater
        · obtain rfl := Option.some.inj (hevent.symm.trans hsent)
          exact .inr (.inl List.mem_cons_self)
    · exact .inr (hsettled.cons receipt)
  · exact ⟨listener, (KeyMap.get_insert_of_ne _ _ hsame).trans hlistener, hreceived⟩

end Rules

end Channel

end PhoneBridge.Library.Broadcast
