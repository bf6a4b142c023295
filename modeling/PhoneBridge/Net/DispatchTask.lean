import PhoneBridge.Net.Dispatch

/-!
# A dispatch as a task

The dispatcher takes the lock of the session map anew for each operation. A dispatch is therefore a
task of up to three atomic steps, and between two of them it holds a session that it has taken out
of the map. A task that runs without interruption has the effect of `dispatch`.
-/

namespace PhoneBridge.Net

open Library Proto Crypto

/-- Where a dispatch stands between two operations on the session map. -/
inductive Stage
  /-- a hello that found no session -/
  | absent
  /-- the Initiator is taken out of the map -/
  | initiator (init : Initiator)
  /-- a `pair.complete` that found no Initiator -/
  | noInitiator
  /-- the Responder is taken out of the map -/
  | responder (responder : Responder)

/-- A dispatch that has begun. -/
structure Task where
  draws : Draws
  env : Envelope
  stage : Stage

namespace Task

/-- The first operation of a dispatch; most messages do not touch the session map. -/
def first (env : Envelope) (m : PairingMap) : Option Stage × PairingMap :=
  match env.messageType with
  | .deviceHello => (if m.contains env.deviceId then none else some .absent, m)
  | .devicePairChallenge | .devicePairConfirm =>
    let (init, m) := m.takeUnpairedInitiator env.deviceId
    (init.map .initiator, m)
  | .devicePairComplete =>
    match m.takeUnpairedInitiator env.deviceId with
    | (some init, m) => (some (.initiator init), m)
    | (none, m) => (some .noInitiator, m)
  | _ => (none, m)

/-- The session that the task puts into the map in the end, if it does. -/
def result (task : Task) : Option DeviceSession :=
  let env := task.env
  match task.stage with
  | .absent =>
    (Responder.start task.draws env.deviceId).toOption.map fun r ↦ .unpaired (.responder r)
  | .initiator init =>
    match env.messageType with
    | .devicePairChallenge =>
      match init.onChallenge task.draws env with
      | .ok init => some (.unpaired (.initiator init))
      | .error _ => some (.unpaired (.initiator init))
    | .devicePairConfirm =>
      let confirm := (env.parsePayload PairConfirm.parse).toOption.getD { accepted := false }
      if confirm.accepted then some (.unpaired (.initiator init)) else none
    | _ => (init.onComplete env).toOption.map (Sessions.pairedWith env.deviceId)
  | .noInitiator => none
  | .responder r => (r.onComplete env).toOption.map (Sessions.pairedWith env.deviceId)

/-- The next operation of a dispatch that has begun. -/
def next (task : Task) (m : PairingMap) : Option Stage × PairingMap :=
  match task.stage with
  | .noInitiator =>
    let (responder, m) := m.takeUnpairedResponder task.env.deviceId
    (responder.map .responder, m)
  | _ =>
    match task.result with
    | some session => (none, m.insert task.env.deviceId session)
    | none => (none, m)

/-- A task with a result puts it into the map and is done. -/
theorem next_of_result {task : Task} {session : DeviceSession} (h : task.result = some session)
    (m : PairingMap) : task.next m = (none, m.insert task.env.deviceId session) := by
  unfold next
  split
  · next hstage => simp [result, hstage] at h
  · rw [h]

end Task

/-! ## A task on its own -/

/-- The map after a dispatch that nothing interrupts. -/
def uninterrupted (draws : Draws) (env : Envelope) (m : PairingMap) : PairingMap :=
  match Task.first env m with
  | (none, m) => m
  | (some stage, m) =>
    match Task.next { draws, env, stage } m with
    | (none, m) => m
    | (some stage, m) => (Task.next { draws, env, stage } m).2

/-- The steps of a dispatch are those of `dispatch`. -/
theorem uninterrupted_eq (ctx : WsContext) (draws : Draws) (env : Envelope) (s : Sessions) :
    uninterrupted draws env s.pairing = (dispatch ctx draws env s).2.pairing := by
  cases htype : env.messageType with
  | deviceHello =>
    by_cases hknown : (s.pairing.get env.deviceId).isSome = true
    · simp [uninterrupted, Task.first, dispatch, htype, Sessions.onHello, hknown]
    · cases hstart : Responder.start draws env.deviceId <;>
        simp [uninterrupted, Task.first, Task.next, Task.result, dispatch, htype, Sessions.onHello,
          hknown, hstart, Except.toOption, Sessions.insert]
  | devicePairChallenge =>
    rcases htake : s.pairing.takeUnpairedInitiator env.deviceId with ⟨_ | init, m⟩
    · simp [uninterrupted, Task.first, dispatch, htype, Sessions.onPairChallenge, htake]
    · cases hchallenge : init.onChallenge draws env <;>
        simp [uninterrupted, Task.first, Task.next, Task.result, dispatch, htype,
          Sessions.onPairChallenge, htake, hchallenge, Sessions.insert]
  | devicePairConfirm =>
    rcases htake : s.pairing.takeUnpairedInitiator env.deviceId with ⟨_ | init, m⟩
    · simp [uninterrupted, Task.first, dispatch, htype, Sessions.onPairConfirm, htake]
    · by_cases haccepted : ((PairConfirm.parse env.payload).toOption.getD
          { accepted := false }).accepted = true <;>
        simp [uninterrupted, Task.first, Task.next, Task.result, dispatch, htype,
          Sessions.onPairConfirm, htake, haccepted, Sessions.insert]
  | devicePairComplete =>
    rcases htake : s.pairing.takeUnpairedInitiator env.deviceId with ⟨_ | init, m⟩
    · rcases hresponder : m.takeUnpairedResponder env.deviceId with ⟨_ | responder, m'⟩
      · simp [uninterrupted, Task.first, Task.next, dispatch, htype, Sessions.onPairComplete, htake,
          hresponder]
      · cases hcomplete : responder.onComplete env <;>
          simp [uninterrupted, Task.first, Task.next, Task.result, dispatch, htype,
            Sessions.onPairComplete, htake, hresponder, hcomplete, Except.toOption, Sessions.insert]
    · cases hcomplete : init.onComplete env <;>
        simp [uninterrupted, Task.first, Task.next, Task.result, dispatch, htype,
          Sessions.onPairComplete, htake, hcomplete, Except.toOption, Sessions.insert]
  | devicePairRequest =>
    simp [uninterrupted, Task.first, dispatch, htype, Sessions.onPairRequest]
  | _ => simp [uninterrupted, Task.first, dispatch, htype]

end PhoneBridge.Net
