import PhoneBridge.MessageCenter.Rest
import PhoneBridge.Net.ChallengeCheck

/-!
# Decisions of the user on a pairing in flight

`pair_accept` and `pair_reject` read the session of a device through a snapshot of the pairing map,
and the snapshot shows a freshly started Responder in the place of every unpaired session. What the
handlers answer is compared with what the stored session would have them answer.
-/

namespace PhoneBridge.MessageCenter

open Library Proto Net Crypto

/-! ## What a session shows -/

/-- The part that a session plays. -/
inductive Role
  | initiator
  | responder
  | paired
  deriving DecidableEq, Repr

/-- The role of a session and what its accessors return. -/
structure SessionContents where
  role : Role
  challengeReceived : Bool
  identity : Option Identity
  code : Option String
  device : Option PairedSession

/-- What can be observed of a session. -/
def contents : DeviceSession → SessionContents
  | .unpaired (.initiator init) => {
      role := .initiator
      challengeReceived := init.peerEphemeralPub.isSome
      identity := some init.identity
      code := init.challengeCode
      device := none }
  | .unpaired (.responder responder) => {
      role := .responder
      challengeReceived := false
      identity := some responder.identity
      code := responder.code
      device := none }
  | .paired session => {
      role := .paired
      challengeReceived := false
      identity := none
      code := none
      device := some session }

/-- A session that looks like the one that a snapshot shows in its place. -/
def LooksLike (dummy : Responder) : UnpairedSession → Prop
  | .initiator _ => False
  | .responder responder => responder.identity = dummy.identity ∧ responder.code = dummy.code

theorem contents_clone_iff (dummy : Responder) (unpaired : UnpairedSession) :
    contents (cloneSession dummy (.unpaired unpaired)) = contents (.unpaired unpaired) ↔
      LooksLike dummy unpaired := by
  cases unpaired with
  | initiator init => simp [cloneSession, contents, LooksLike]
  | responder responder =>
    simp only [cloneSession, contents, LooksLike, SessionContents.mk.injEq, Option.some.injEq,
      true_and, and_true]
    exact and_congr eq_comm eq_comm

/-- A snapshot shows what is stored exactly when no unpaired session of another appearance is. -/
theorem contents_snapshot_iff (m : PairingMap) (dummy : Responder) (deviceId : Uuid) :
    (m.snapshot dummy deviceId).map contents = (m.get deviceId).map contents ↔
      ∀ unpaired, m.get deviceId = some (.unpaired unpaired) → LooksLike dummy unpaired := by
  cases hsession : m.get deviceId with
  | none => simp [PairingMap.snapshot, hsession]
  | some session =>
    cases session with
    | paired session => simp [PairingMap.snapshot, hsession, cloneSession]
    | unpaired unpaired =>
      have hclone := contents_clone_iff dummy unpaired
      simp [PairingMap.snapshot, hsession, hclone]

/-! ## What the decisions should do -/

variable {σ : Type}

/-- The queue of the device takes one more envelope. -/
def QueueAccepts (center : Center σ) (deviceId : Uuid) : Prop :=
  ∃ tx, center.registry.inner.get deviceId = some tx ∧
    (center.registry.outboxes tx).receiving = true ∧
    (center.registry.outboxes tx).queue.length < Outbox.capacity

/-- An Initiator that has accepted a challenge is in flight, the typed code is well formed, and the
queue of the device takes the envelope. -/
def CanAccept (center : Center σ) (deviceId : Uuid) (code : Option String) : Prop :=
  (∃ init, center.sessions.pairing.get deviceId = some (.unpaired (.initiator init)) ∧
    init.peerEphemeralPub.isSome) ∧
  (∀ typed ∈ code, IsFourDigits typed) ∧ QueueAccepts center deviceId

/-- An Initiator is in flight and the queue of the device takes the envelope. -/
def CanReject (center : Center σ) (deviceId : Uuid) : Prop :=
  (∃ init, center.sessions.pairing.get deviceId = some (.unpaired (.initiator init))) ∧
  QueueAccepts center deviceId

/-- The decisions on a device's pairing act on the session that is stored. -/
structure ActsOnRealSession (ctx : WsContext) (draws : Draws) (dummy : Responder) (deviceId : Uuid)
    (code reason : Option String) (center : Center σ) : Prop where
  snapshot : (center.sessions.pairing.snapshot dummy deviceId).map contents =
    (center.sessions.pairing.get deviceId).map contents
  accept : (pairAccept ctx draws dummy deviceId code center).1.status = 200 ↔
    CanAccept center deviceId code
  reject : (pairReject ctx draws dummy deviceId reason center).1.status = 200 ↔
    CanReject center deviceId
  kept : ∀ init, center.sessions.pairing.get deviceId = some (.unpaired (.initiator init)) →
    (pairAccept ctx draws dummy deviceId code center).2.sessions.pairing.get deviceId =
      some (.unpaired (.initiator init))

section Decisions

variable (ctx : WsContext) (draws : Draws) (dummy : Responder) (deviceId : Uuid)
  (code reason : Option String) (center : Center σ)

/-- `pair_accept` never succeeds, which is right only where it should not. -/
theorem accept_status_iff :
    ((pairAccept ctx draws dummy deviceId code center).1.status = 200 ↔
      CanAccept center deviceId code) ↔ ¬ CanAccept center deviceId code := by
  rw [pairAccept_eq]
  simp [noInFlight]

/-- Nor does `pair_reject`. -/
theorem reject_status_iff :
    ((pairReject ctx draws dummy deviceId reason center).1.status = 200 ↔
      CanReject center deviceId) ↔ ¬ CanReject center deviceId := by
  rw [pairReject_eq]
  simp [noInFlight]

/-- The decisions act on the stored session exactly when there is no unpaired session, or one that
looks like the dummy of the snapshot; the two answers are right exactly when the decision cannot be
carried out anyway. -/
theorem decisions_act_on_real_session_iff :
    (ActsOnRealSession ctx draws dummy deviceId code reason center ↔
      ∀ unpaired, center.sessions.pairing.get deviceId = some (.unpaired unpaired) →
        LooksLike dummy unpaired) ∧
    (((pairAccept ctx draws dummy deviceId code center).1.status = 200 ↔
      CanAccept center deviceId code) ↔ ¬ CanAccept center deviceId code) ∧
    (((pairReject ctx draws dummy deviceId reason center).1.status = 200 ↔
      CanReject center deviceId) ↔ ¬ CanReject center deviceId) := by
  refine ⟨?_, accept_status_iff ctx draws dummy deviceId code center,
    reject_status_iff ctx draws dummy deviceId reason center⟩
  rw [← contents_snapshot_iff]
  constructor
  · exact fun h ↦ h.snapshot
  · intro hsnapshot
    have hnone : ∀ init,
        center.sessions.pairing.get deviceId ≠ some (.unpaired (.initiator init)) :=
      fun init hinit ↦ (contents_snapshot_iff _ _ _).mp hsnapshot _ hinit
    exact {
      snapshot := hsnapshot
      accept := (accept_status_iff ctx draws dummy deviceId code center).mpr
        fun ⟨⟨init, hinit, _⟩, _⟩ ↦ hnone init hinit
      reject := (reject_status_iff ctx draws dummy deviceId reason center).mpr
        fun ⟨⟨init, hinit⟩, _⟩ ↦ hnone init hinit
      kept := fun init hinit ↦ absurd hinit (hnone init) }

end Decisions

/-- The Responder that a snapshot shows. -/
def sampleDummy : Responder where
  identity := sampleIdentity
  peerDeviceId := .nil
  ephemeralPub := none
  code := none
  expiresAt := none
  accepted := none

/-- The phone 1 has answered the challenge of the center and is connected. -/
def sampleChallenged : Center Unit where
  sessions := Sessions.empty.insert ⟨1⟩ (.unpaired (.initiator { sampleInitiator with
    peerEphemeralPub := some sampleKeyPair.publicKey, challengeCode := some "1234" }))
  registry := { inner := KeyMap.empty.insert ⟨1⟩ 0, outboxes := fun _ ↦ .new }
  store := ()

/-- The user cannot accept a pairing that is ready to be accepted. -/
theorem accept_misses_the_session : ¬ ∀ (ctx : WsContext) (draws : Draws) (dummy : Responder)
    (deviceId : Uuid) (code reason : Option String) (center : Center Unit),
    ActsOnRealSession ctx draws dummy deviceId code reason center := by
  intro h
  have hready : CanAccept sampleChallenged ⟨1⟩ (some "1234") := by
    refine ⟨⟨_, rfl, rfl⟩, ?_, ⟨0, rfl, rfl, by decide⟩⟩
    intro typed htyped
    cases htyped
    decide +kernel
  have hstatus :=
    (h sampleContext sampleDraws sampleDummy ⟨1⟩ (some "1234") none sampleChallenged).accept
  exact (accept_status_iff _ _ _ _ _ _).mp hstatus hready

end PhoneBridge.MessageCenter
