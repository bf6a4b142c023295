import PhoneBridge.Proto.Display

/-!
# The outgoing channel of the display service

`actions.rs`: a sink is a shared cell that holds the sending half of a bounded channel, or nothing
while no session is live.
-/

namespace PhoneBridge.DeskDisplay

open Proto

/-- A shared cell that an `ActionSink` and its clones point to. -/
abbrev SinkId := Nat

/-- A sink with a cell of its own. -/
def ActionSink.new (allocated : Nat) : SinkId × Nat := (allocated, allocated + 1)

/-- A bounded channel of actions. -/
structure Channel where
  queue : List DisplayAction
  receiving : Bool

namespace Channel

def actionBuffer : Nat := 32

def new : Channel := { queue := [], receiving := true }

/-- A send that fails when the channel is closed or full. -/
def trySend (channel : Channel) (action : DisplayAction) : Except String Channel :=
  if ¬ channel.receiving then .error "action channel closed"
  else if actionBuffer ≤ channel.queue.length then .error "action channel full"
  else .ok { channel with queue := channel.queue ++ [action] }

/-- The channel takes another action. -/
structure Accepts (channel : Channel) : Prop where
  receiving : channel.receiving = true
  room : channel.queue.length < actionBuffer

theorem trySend_eq_ok {channel after : Channel} {action : DisplayAction} :
    channel.trySend action = .ok after ↔
      channel.Accepts ∧ after = { channel with queue := channel.queue ++ [action] } := by
  unfold trySend
  constructor
  · intro h
    split at h
    · cases h
    · next hreceiving =>
      split at h
      · cases h
      · next hroom =>
        cases h
        exact ⟨⟨by simpa using hreceiving, Nat.lt_of_not_le hroom⟩, rfl⟩
  · rintro ⟨⟨hreceiving, hroom⟩, rfl⟩
    simp [hreceiving, Nat.not_le.mpr hroom]

end Channel

end PhoneBridge.DeskDisplay
