import PhoneBridge.Library.Run
import PhoneBridge.MessageCenter.Rest
import PhoneBridge.Net.ChallengeCheck
import PhoneBridge.Net.DispatchTask

/-!
# Dispatches and REST calls on one session map

The dispatches of all connections and the REST handlers act on the session map from many threads; a
step here is one operation under the lock. A dispatch that holds a session puts its result into the
map whatever has happened to the device in between, so a removed session comes back and a new
Initiator is overwritten, unless the REST calls keep away from devices with a dispatch in progress.
-/

namespace PhoneBridge.MessageCenter

open Library Proto Net Crypto

abbrev TaskId := Nat

/-- A dispatch in progress. No step reads the two marks. -/
structure Running where
  task : Task
  /-- the device has been removed, or its pairing rejected, since the dispatch began -/
  removed : Bool
  /-- a `pair_start` has stored an Initiator for the device since the dispatch took its own -/
  restarted : Bool

/-- The session map with the handlers that act on it. -/
structure Threads where
  pairing : PairingMap
  dispatches : KeyMap TaskId Running
  /-- the devices that a `pair_reject` is about to remove -/
  rejects : KeyMap TaskId Uuid

/-- One operation of one handler. -/
inductive ThreadLabel
  | first (id : TaskId) (draws : Draws) (env : Envelope)
  | next (id : TaskId)
  | pairStart (draws : Draws) (deviceId : Uuid)
  | pairReject (id : TaskId) (dummy : Responder) (deviceId : Uuid)
  | finishReject (id : TaskId)
  | removeDevice (deviceId : Uuid)

namespace Threads

/-- No handler is at work. -/
def start (pairing : PairingMap) : Threads :=
  { pairing, dispatches := .empty, rejects := .empty }

/-- Mark the dispatches of a device. -/
def mark (s : Threads) (deviceId : Uuid) (f : Running → Running) : KeyMap TaskId Running :=
  fun id ↦ (s.dispatches.get id).map fun r ↦ if r.task.env.deviceId = deviceId then f r else r

/-- Drop the session of a device from the map. -/
def remove (s : Threads) (deviceId : Uuid) : Threads := { s with
  pairing := s.pairing.remove deviceId
  dispatches := s.mark deviceId fun r ↦ { r with removed := true } }

/-- The first operation of a dispatch on a thread of its own. -/
def first (s : Threads) (id : TaskId) (draws : Draws) (env : Envelope) : Option Threads :=
  if s.dispatches.contains id then none
  else
    let (stage, pairing) := Task.first env s.pairing
    some { s with
      pairing
      dispatches := s.dispatches.set id
        (stage.map fun stage ↦
          { task := { draws, env, stage }, removed := false, restarted := false }) }

/-- The next operation of a dispatch in progress. -/
def next (s : Threads) (id : TaskId) : Option Threads :=
  (s.dispatches.get id).map fun r ↦
    let (stage, pairing) := r.task.next s.pairing
    { s with
      pairing
      dispatches := s.dispatches.set id
        (stage.map fun stage ↦ { r with task := { r.task with stage } }) }

/-- The Initiator of a `pair_start` comes into the map. -/
def pairStart (s : Threads) (ctx : WsContext) (draws : Draws) (deviceId : Uuid) : Option Threads :=
  match Initiator.start draws deviceId ctx.ourName with
  | .ok initiator => some { s with
      pairing := s.pairing.insert deviceId (.unpaired (.initiator initiator))
      dispatches := s.mark deviceId fun r ↦ { r with restarted := true } }
  | .error _ => none

/-- A `pair_reject` looks for an Initiator. -/
def pairReject (s : Threads) (id : TaskId) (dummy : Responder) (deviceId : Uuid) : Threads :=
  match s.pairing.snapshot dummy deviceId with
  | some (.unpaired (.initiator _)) => { s with rejects := s.rejects.insert id deviceId }
  | _ => s

def step (ctx : WsContext) (s : Threads) : ThreadLabel → Option Threads
  | .first id draws env => s.first id draws env
  | .next id => s.next id
  | .pairStart draws deviceId => s.pairStart ctx draws deviceId
  | .pairReject id dummy deviceId => some (s.pairReject id dummy deviceId)
  | .finishReject id => (s.rejects.get id).map fun deviceId ↦
      { s.remove deviceId with rejects := s.rejects.remove id }
  | .removeDevice deviceId => some (s.remove deviceId)

/-! ## What may not happen -/

/-- The map has an Initiator for the device. -/
def HasInitiator (s : Threads) (deviceId : Uuid) : Prop :=
  ∃ init, s.pairing.get deviceId = some (.unpaired (.initiator init))

/-- A dispatch of a removed device puts no session back, and the result of an Initiator's transition
does not replace an Initiator that was stored since. -/
def SafeStep (s : Threads) : ThreadLabel → Prop
  | .next id => ∀ r ∈ s.dispatches.get id, ∀ session ∈ r.task.result,
      r.removed = false ∧
        ((∃ init, r.task.stage = .initiator init) → r.restarted = true →
          ¬ s.HasInitiator r.task.env.deviceId)
  | _ => True

/-- The dispatch is going to drop the session that it holds. -/
def Drops (task : Task) : Prop :=
  match task.stage with
  | .noInitiator => False
  | .absent | .initiator _ | .responder _ => task.result = none

/-- No dispatch of the device is in progress, apart from those that drop what they hold. -/
def Undisturbed (s : Threads) (deviceId : Uuid) : Prop :=
  ∀ id r, s.dispatches.get id = some r → r.task.env.deviceId = deviceId → Drops r.task

/-- No dispatch that is going to put back an Initiator of the device is in progress. -/
def NoInitiatorHeld (s : Threads) (deviceId : Uuid) : Prop :=
  ∀ id r, s.dispatches.get id = some r → r.task.env.deviceId = deviceId →
    (∃ init, r.task.stage = .initiator init) → r.task.result = none

/-- The REST calls keep away from the devices with a dispatch in progress. -/
def KeepsAway (s : Threads) : ThreadLabel → Prop
  | .removeDevice deviceId => s.Undisturbed deviceId
  | .finishReject id => ∀ deviceId ∈ s.rejects.get id, s.Undisturbed deviceId
  | .pairStart _ deviceId => s.NoInitiatorHeld deviceId
  | .first .. | .next _ | .pairReject .. => True

/-! ## Whole runs -/

/-- A marked dispatch drops what it holds. -/
structure Marked (r : Running) : Prop where
  removed : r.removed = true → Drops r.task
  restarted : r.restarted = true → (∃ init, r.task.stage = .initiator init) → r.task.result = none

/-- Every marked dispatch drops what it holds. -/
def MarkedDrop (s : Threads) : Prop := ∀ id r, s.dispatches.get id = some r → Marked r

theorem result_of_drops {task : Task} (h : Drops task) : task.result = none := by
  unfold Drops at h
  split at h
  · exact h.elim
  · exact h
  · exact h
  · exact h

theorem MarkedDrop.safeStep {s : Threads} (h : s.MarkedDrop) (label : ThreadLabel) :
    s.SafeStep label := by
  cases label with
  | next id =>
    intro r hr session hsession
    obtain ⟨hremoved, hrestarted⟩ := h id r hr
    rw [Option.mem_def] at hsession
    constructor
    · by_contra hmarked
      have hnone := result_of_drops (hremoved (by simpa using hmarked))
      rw [hsession] at hnone
      cases hnone
    · intro hinit hmarked
      have hnone := hrestarted hmarked hinit
      rw [hsession] at hnone
      cases hnone
  | _ => trivial

section Steps

variable {s t : Threads} {id : TaskId} {deviceId : Uuid}

theorem get_mark {f : Running → Running} {r : Running}
    (h : (s.mark deviceId f).get id = some r) :
    ∃ before, s.dispatches.get id = some before ∧
      r = if before.task.env.deviceId = deviceId then f before else before := by
  obtain ⟨before, hbefore, heq⟩ := Option.map_eq_some_iff.mp h
  exact ⟨before, hbefore, heq.symm⟩

theorem MarkedDrop.remove (h : s.MarkedDrop) (hkeeps : s.Undisturbed deviceId) :
    (s.remove deviceId).MarkedDrop := by
  intro id r hr
  obtain ⟨before, hbefore, rfl⟩ := get_mark hr
  split
  · next hdevice =>
    exact ⟨fun _ ↦ hkeeps id before hbefore hdevice, (h id before hbefore).restarted⟩
  · exact h id before hbefore

theorem MarkedDrop.pairStart (h : s.MarkedDrop) {ctx : WsContext} {draws : Draws}
    (hkeeps : s.NoInitiatorHeld deviceId) (hstep : s.pairStart ctx draws deviceId = some t) :
    t.MarkedDrop := by
  unfold Threads.pairStart at hstep
  split at hstep
  · cases hstep
    intro id r hr
    obtain ⟨before, hbefore, rfl⟩ := get_mark hr
    split
    · next hdevice =>
      exact ⟨(h id before hbefore).removed, fun _ ↦ hkeeps id before hbefore hdevice⟩
    · exact h id before hbefore
  · cases hstep

theorem MarkedDrop.first (h : s.MarkedDrop) {draws : Draws} {env : Envelope}
    (hstep : s.first id draws env = some t) : t.MarkedDrop := by
  unfold Threads.first at hstep
  split at hstep
  · cases hstep
  · cases hstep
    intro other r hr
    rw [KeyMap.get_set] at hr
    split at hr
    · obtain ⟨stage, -, rfl⟩ := Option.map_eq_some_iff.mp hr
      exact ⟨fun hmarked ↦ (Bool.false_ne_true hmarked).elim,
        fun hmarked ↦ (Bool.false_ne_true hmarked).elim⟩
    · exact h other r hr

/-- A dispatch goes on only with the Responder that it has just taken. -/
theorem stage_of_next {task : Task} {m : PairingMap} {stage : Stage}
    (h : (task.next m).1 = some stage) :
    task.stage = .noInitiator ∧ ∃ responder, stage = .responder responder := by
  unfold Task.next at h
  split at h
  · next hstage =>
    obtain ⟨responder, -, rfl⟩ := Option.map_eq_some_iff.mp h
    exact ⟨hstage, responder, rfl⟩
  · split at h
    · cases h
    · cases h

theorem MarkedDrop.next (h : s.MarkedDrop) (hstep : s.next id = some t) : t.MarkedDrop := by
  obtain ⟨r, hr, rfl⟩ := Option.map_eq_some_iff.mp hstep
  intro other later hlater
  rw [KeyMap.get_set] at hlater
  split at hlater
  · obtain ⟨stage, hstage, rfl⟩ := Option.map_eq_some_iff.mp hlater
    obtain ⟨hbefore, responder, rfl⟩ := stage_of_next hstage
    refine ⟨fun hmarked ↦ ?_, fun _ ⟨init, hinit⟩ ↦ nomatch hinit⟩
    -- a marked dispatch does not stand before the second take
    have hdrops := (h id r hr).removed hmarked
    rw [Drops, hbefore] at hdrops
    exact hdrops.elim
  · exact h other later hlater

theorem MarkedDrop.step (h : s.MarkedDrop) {ctx : WsContext} {label : ThreadLabel}
    (hkeeps : s.KeepsAway label) (hstep : s.step ctx label = some t) : t.MarkedDrop := by
  cases label with
  | first id draws env => exact h.first hstep
  | next id => exact h.next hstep
  | pairStart draws deviceId => exact h.pairStart hkeeps hstep
  | pairReject id dummy deviceId =>
    cases hstep
    unfold Threads.pairReject
    split
    · exact h
    · exact h
  | finishReject id =>
    obtain ⟨deviceId, hreject, rfl⟩ := Option.map_eq_some_iff.mp hstep
    exact h.remove (hkeeps deviceId hreject)
  | removeDevice deviceId =>
    cases hstep
    exact h.remove hkeeps

end Steps

/-- In every interleaving whose REST calls keep away from the devices with a dispatch in progress,
no removed session comes back and no later Initiator is replaced. -/
theorem no_session_is_resurrected (ctx : WsContext) (pairing : PairingMap)
    (labels : List ThreadLabel)
    (h : Run.Throughout (step ctx) KeepsAway (start pairing) labels) :
    Run.Throughout (step ctx) SafeStep (start pairing) labels := by
  apply Run.throughout_of_at_step
  intro front label back t hsplit hfront
  rw [hsplit] at h
  have hmarked : t.MarkedDrop := by
    refine Run.invariant_of_throughout MarkedDrop ?_ h.front hfront ?_
    · exact fun u i v hu hkeeps hstep ↦ hu.step hkeeps hstep
    · intro id r hr
      cases hr
  exact hmarked.safeStep label

/-! ## A dispatch that is overtaken -/

section Overtaken

variable {s t : Threads} {id : TaskId} {r : Running} {session : DeviceSession}

/-- A dispatch that is about to put a session brings it back after the device is removed. -/
theorem removed_session_comes_back (hr : s.dispatches.get id = some r)
    (hresult : r.task.result = some session) :
    ¬ (s.remove r.task.env.deviceId).SafeStep (.next id) := by
  intro hsafe
  have hmarked : (s.remove r.task.env.deviceId).dispatches.get id =
      some { r with removed := true } := by
    change ((s.dispatches.get id).map _) = _
    simp [hr]
  exact Bool.noConfusion (hsafe _ hmarked session hresult).1

/-- A dispatch that is about to put an Initiator replaces the one of a later `pair_start`. -/
theorem later_initiator_is_replaced {ctx : WsContext} {draws : Draws}
    (hr : s.dispatches.get id = some r) (hinit : ∃ init, r.task.stage = .initiator init)
    (hresult : r.task.result = some session)
    (hstart : s.pairStart ctx draws r.task.env.deviceId = some t) : ¬ t.SafeStep (.next id) := by
  intro hsafe
  unfold Threads.pairStart at hstart
  split at hstart
  · next initiator hinitiator =>
    cases hstart
    have hmarked : (s.mark r.task.env.deviceId fun r ↦ { r with restarted := true }).get id =
        some { r with restarted := true } := by
      change ((s.dispatches.get id).map _) = _
      simp [hr]
    exact (hsafe _ hmarked session hresult).2 hinit rfl ⟨initiator, KeyMap.get_insert_self ..⟩
  · cases hstart

end Overtaken

/-- The phone's consent. -/
def sampleConfirm : Envelope :=
  sampleDraws.envelope .devicePairConfirm ⟨1⟩ (PairConfirm.toValue { accepted := true })

/-- A map with an Initiator for the phone 1. -/
def samplePairings : PairingMap := KeyMap.empty.insert ⟨1⟩ (.unpaired (.initiator sampleInitiator))

/-- A dispatch of the consent that holds the Initiator. -/
def sampleTask : Task where
  draws := sampleDraws
  env := sampleConfirm
  stage := .initiator sampleInitiator

theorem result_sampleTask : sampleTask.result = some (.unpaired (.initiator sampleInitiator)) := by
  rfl

/-- The dispatch has taken the Initiator. -/
def sampleHeld : Threads where
  pairing := samplePairings.remove ⟨1⟩
  dispatches := KeyMap.empty.insert 0 { task := sampleTask, removed := false, restarted := false }
  rejects := .empty

theorem first_sample :
    (start samplePairings).first 0 sampleDraws sampleConfirm = some sampleHeld := by
  rfl

/-- The removal of the device waits for the end of the dispatch. -/
theorem sample_not_resurrected :
    Run.Throughout (step sampleContext) SafeStep (start samplePairings)
      [.first 0 sampleDraws sampleConfirm, .next 0, .removeDevice ⟨1⟩] := by
  refine no_session_is_resurrected _ _ _ ⟨trivial, fun s hs ↦ ⟨trivial, fun t ht ↦ ⟨?_, ?_⟩⟩⟩
  · obtain rfl : sampleHeld = s := Option.some.inj (first_sample.symm.trans hs)
    have hidle : ∀ id, t.dispatches.get id = none := by
      cases ht
      intro id
      simp only [sampleHeld, KeyMap.get_set, KeyMap.get_insert, KeyMap.get_empty,
        Task.next_of_result result_sampleTask, Option.map_none]
      split <;> rfl
    intro id r hr
    rw [hidle id] at hr
    cases hr
  · exact fun _ _ ↦ trivial

/-- A removal between the two halves of a dispatch is undone by the second half. -/
theorem removal_is_undone : ¬ ∀ (ctx : WsContext) (pairing : PairingMap) (labels : List ThreadLabel),
    Run.Throughout (step ctx) SafeStep (start pairing) labels := by
  intro h
  obtain ⟨-, hheld⟩ := h sampleContext samplePairings
    [.first 0 sampleDraws sampleConfirm, .removeDevice ⟨1⟩, .next 0]
  obtain ⟨-, hremoved⟩ := hheld sampleHeld first_sample
  obtain ⟨hsafe, -⟩ := hremoved (sampleHeld.remove ⟨1⟩) rfl
  have hr : sampleHeld.dispatches.get 0 =
      some { task := sampleTask, removed := false, restarted := false } := rfl
  exact removed_session_comes_back hr result_sampleTask hsafe

end Threads

end PhoneBridge.MessageCenter
