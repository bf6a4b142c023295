import PhoneBridge.Library.KeyMap
import PhoneBridge.Net.Pairing

/-!
# The envelope dispatcher

The part of `ws_handler.rs` that drives pairing: the shared maps of sessions and of parked requests,
and `dispatch` with one definition per branch. The second half shows that a dispatch is a step of
the session of the device it names and of no other session.
-/

namespace PhoneBridge.Net

open Library Proto Crypto

/-- What a connection handler knows about this message-center. -/
structure WsContext where
  ourDeviceId : Uuid
  ourName : String
  ourPublicKeyB64 : String
  ourListenPort : Option UInt16
  serdeMessage : SerdeError → String

/-- A context for examples. -/
def sampleContext : WsContext where
  ourDeviceId := ⟨7⟩
  ourName := "center"
  ourPublicKeyB64 := ""
  ourListenPort := none
  serdeMessage := fun _ ↦ ""

/-- One half of a pending pairing. -/
inductive UnpairedSession
  | initiator (init : Initiator)
  | responder (responder : Responder)

/-- Bookkeeping for a paired connection. -/
structure PairedSession where
  deviceId : Uuid
  name : String
  certFingerprint : String
  deriving DecidableEq, Repr

/-- Per-device state held in the shared `PairingMap`. -/
inductive DeviceSession
  | unpaired (session : UnpairedSession)
  | paired (session : PairedSession)

/-- A `device.pair.request` from a phone, awaiting the user's decision on the web console. -/
structure PendingIncoming where
  deviceId : Uuid
  name : String
  receivedAt : Int64
  peerEphemeralPubB64 : Option String
  deriving DecidableEq, Repr

/-- Shared map of `device_id -> DeviceSession`. -/
abbrev PairingMap := KeyMap Uuid DeviceSession

/-- Shared map of pending phone-initiated pairing requests. -/
abbrev PendingIncomingMap := KeyMap Uuid PendingIncoming

/-- A copy of a session; the place of an unpaired one is taken by a dummy responder. -/
def cloneSession (dummy : Responder) : DeviceSession → DeviceSession
  | .paired session => .paired session
  | .unpaired _ => .unpaired (.responder dummy)

/-- Get a snapshot of the session for inspection. -/
def PairingMap.snapshot (m : PairingMap) (dummy : Responder) (deviceId : Uuid) :
    Option DeviceSession :=
  (m.get deviceId).map (cloneSession dummy)

/-- Remove and return the `Initiator` for this device, if one is in flight. -/
def PairingMap.takeUnpairedInitiator (m : PairingMap) (deviceId : Uuid) :
    Option Initiator × PairingMap :=
  match m.get deviceId with
  | some (.unpaired (.initiator init)) => (some init, m.remove deviceId)
  | some other => (none, (m.remove deviceId).insert deviceId other)
  | none => (none, m.remove deviceId)

/-- Remove and return the `Responder` for this device, if one is in flight. -/
def PairingMap.takeUnpairedResponder (m : PairingMap) (deviceId : Uuid) :
    Option Responder × PairingMap :=
  match m.get deviceId with
  | some (.unpaired (.responder responder)) => (some responder, m.remove deviceId)
  | some other => (none, (m.remove deviceId).insert deviceId other)
  | none => (none, m.remove deviceId)

/-- The two maps that pairing works on. -/
structure Sessions where
  pairing : PairingMap
  pendingIncoming : PendingIncomingMap

namespace Sessions

/-- No sessions and no parked requests. -/
def empty : Sessions := { pairing := .empty, pendingIncoming := .empty }

def insert (s : Sessions) (deviceId : Uuid) (session : DeviceSession) : Sessions :=
  { s with pairing := s.pairing.insert deviceId session }

/-- First contact. Insert a Responder state machine. -/
def onHello (s : Sessions) (draws : Draws) (peerId : Uuid) : Sessions :=
  if s.pairing.contains peerId then s
  else
    match Responder.start draws peerId with
    | .ok responder => s.insert peerId (.unpaired (.responder responder))
    | .error _ => s

/-- The display name that a parked request is listed under. -/
def pendingName (peerId : Uuid) : String := "device-" ++ String.ofList (peerId.toText.toList.take 8)

/-- Park the phone's request until the user decides. -/
def onPairRequest (s : Sessions) (draws : Draws) (env : Envelope) : Sessions :=
  let peerId := env.deviceId
  let req := (env.parsePayload PairRequest.parse).toOption.getD { ephemeralPubkey := "" }
  { s with pendingIncoming := s.pendingIncoming.insert peerId {
      deviceId := peerId
      name := pendingName peerId
      receivedAt := draws.now
      peerEphemeralPubB64 := (some req.ephemeralPubkey).filter (· ≠ "") } }

/-- The phone derived a code from our ephemeral key: record it in the Initiator. -/
def onPairChallenge (ctx : WsContext) (s : Sessions) (draws : Draws) (env : Envelope) :
    Option Envelope × Sessions :=
  let peerId := env.deviceId
  match s.pairing.takeUnpairedInitiator peerId with
  | (none, pairing) => (none, { s with pairing })
  | (some init, pairing) =>
    let taken := { s with pairing }
    match init.onChallenge draws env with
    | .error e =>
      (some (init.buildRejectEnvelope draws ctx.ourDeviceId (e.message ctx.serdeMessage)),
        taken.insert peerId (.unpaired (.initiator init)))
    | .ok init => (none, taken.insert peerId (.unpaired (.initiator init)))

/-- The user's decision on the phone; a payload that cannot be read counts as a rejection. -/
def onPairConfirm (ctx : WsContext) (s : Sessions) (draws : Draws) (env : Envelope) :
    Option Envelope × Sessions :=
  let peerId := env.deviceId
  match s.pairing.takeUnpairedInitiator peerId with
  | (none, pairing) => (none, { s with pairing })
  | (some init, pairing) =>
    let taken := { s with pairing }
    let confirm := (env.parsePayload PairConfirm.parse).toOption.getD { accepted := false }
    if confirm.accepted then
      (some (init.buildCompleteEnvelope draws ctx.ourDeviceId),
        taken.insert peerId (.unpaired (.initiator init)))
    else (none, taken)

/-- The session that a completed exchange leaves behind. -/
def pairedWith (peerId : Uuid) (outcome : PairingOutcome) : DeviceSession :=
  .paired {
    deviceId := peerId
    name := "(unknown)"
    certFingerprint := outcome.peerFingerprint }

/-- The phone's certificate: first try as Initiator, else as Responder. -/
def onPairComplete (s : Sessions) (env : Envelope) : Sessions :=
  let peerId := env.deviceId
  match s.pairing.takeUnpairedInitiator peerId with
  | (some init, pairing) =>
    let taken := { s with pairing }
    match init.onComplete env with
    | .ok outcome => taken.insert peerId (pairedWith peerId outcome)
    | .error _ => taken
  | (none, pairing) =>
    match pairing.takeUnpairedResponder peerId with
    | (some responder, pairing) =>
      let taken := { s with pairing }
      match responder.onComplete env with
      | .ok outcome => taken.insert peerId (pairedWith peerId outcome)
      | .error _ => taken
    | (none, pairing) => { s with pairing }

end Sessions

/-- Dispatch a single envelope to the right handler. Returns an optional envelope to send back. -/
def dispatch (ctx : WsContext) (draws : Draws) (env : Envelope) (s : Sessions) :
    Option Envelope × Sessions :=
  match env.messageType with
  | .deviceHello => (none, s.onHello draws env.deviceId)
  | .deviceHeartbeat =>
    (some (draws.envelope .deviceHeartbeat ctx.ourDeviceId (DeviceHeartbeat.toValue {})), s)
  | .devicePairRequest => (none, s.onPairRequest draws env)
  | .devicePairChallenge => s.onPairChallenge ctx draws env
  | .devicePairConfirm => s.onPairConfirm ctx draws env
  | .devicePairComplete => (none, s.onPairComplete env)
  | _ => (none, s)

/-! ## One device's session -/

namespace DeviceSession

/-- What an envelope of a device does to the device's own session. -/
def after (draws : Draws) (env : Envelope) (session : Option DeviceSession) :
    Option DeviceSession :=
  match env.messageType, session with
  | .deviceHello, none =>
    (Responder.start draws env.deviceId).toOption.map fun responder ↦ .unpaired (.responder responder)
  | .devicePairChallenge, some (.unpaired (.initiator init)) =>
    match init.onChallenge draws env with
    | .ok next => some (.unpaired (.initiator next))
    | .error _ => some (.unpaired (.initiator init))
  | .devicePairConfirm, some (.unpaired (.initiator init)) =>
    if (env.parsePayload PairConfirm.parse).toOption = some { accepted := true } then
      some (.unpaired (.initiator init))
    else none
  | .devicePairComplete, some (.unpaired (.initiator init)) =>
    (init.onComplete env).toOption.map (Sessions.pairedWith env.deviceId)
  | .devicePairComplete, some (.unpaired (.responder responder)) =>
    (responder.onComplete env).toOption.map (Sessions.pairedWith env.deviceId)
  | _, session => session

/-- What the center answers to an envelope of a device with this session. -/
def reply (ctx : WsContext) (draws : Draws) (env : Envelope) (session : Option DeviceSession) :
    Option Envelope :=
  match env.messageType, session with
  | .deviceHeartbeat, _ =>
    some (draws.envelope .deviceHeartbeat ctx.ourDeviceId (DeviceHeartbeat.toValue {}))
  | .devicePairChallenge, some (.unpaired (.initiator init)) =>
    match init.onChallenge draws env with
    | .ok _ => none
    | .error e =>
      some (init.buildRejectEnvelope draws ctx.ourDeviceId (e.message ctx.serdeMessage))
  | .devicePairConfirm, some (.unpaired (.initiator init)) =>
    if (env.parsePayload PairConfirm.parse).toOption = some { accepted := true } then
      some (init.buildCompleteEnvelope draws ctx.ourDeviceId)
    else none
  | _, _ => none

end DeviceSession

/-- What an envelope of a device does to the device's parked request. -/
def PendingIncoming.after (draws : Draws) (env : Envelope) (pending : Option PendingIncoming) :
    Option PendingIncoming :=
  match env.messageType with
  | .devicePairRequest =>
    some {
      deviceId := env.deviceId
      name := Sessions.pendingName env.deviceId
      receivedAt := draws.now
      peerEphemeralPubB64 :=
        (some ((env.parsePayload PairRequest.parse).toOption.getD { ephemeralPubkey := "" }
          ).ephemeralPubkey).filter (· ≠ "") }
  | _ => pending

/-- A snapshot never shows an Initiator. -/
theorem snapshot_ne_initiator (m : PairingMap) (dummy : Responder) (deviceId : Uuid)
    (init : Initiator) : m.snapshot dummy deviceId ≠ some (.unpaired (.initiator init)) := by
  intro h
  obtain ⟨session, -, hclone⟩ := Option.map_eq_some_iff.mp h
  cases session <;> cases hclone

theorem takeUnpairedInitiator_initiator {m : PairingMap} {deviceId : Uuid} {init : Initiator}
    (h : m.get deviceId = some (.unpaired (.initiator init))) :
    m.takeUnpairedInitiator deviceId = (some init, m.remove deviceId) := by
  simp [PairingMap.takeUnpairedInitiator, h]

theorem takeUnpairedInitiator_other {m : PairingMap} {deviceId : Uuid}
    (h : ∀ init, m.get deviceId ≠ some (.unpaired (.initiator init))) :
    m.takeUnpairedInitiator deviceId = (none, m) := by
  unfold PairingMap.takeUnpairedInitiator
  split
  · next init hinit => exact absurd hinit (h init)
  · next other hother => rw [KeyMap.insert_remove, KeyMap.insert_get hother]
  · next hnone => rw [KeyMap.remove_get hnone]

theorem takeUnpairedResponder_responder {m : PairingMap} {deviceId : Uuid} {responder : Responder}
    (h : m.get deviceId = some (.unpaired (.responder responder))) :
    m.takeUnpairedResponder deviceId = (some responder, m.remove deviceId) := by
  simp [PairingMap.takeUnpairedResponder, h]

theorem takeUnpairedResponder_other {m : PairingMap} {deviceId : Uuid}
    (h : ∀ responder, m.get deviceId ≠ some (.unpaired (.responder responder))) :
    m.takeUnpairedResponder deviceId = (none, m) := by
  unfold PairingMap.takeUnpairedResponder
  split
  · next responder hresponder => exact absurd hresponder (h responder)
  · next other hother => rw [KeyMap.insert_remove, KeyMap.insert_get hother]
  · next hnone => rw [KeyMap.remove_get hnone]

/-- No envelope creates an Initiator. -/
theorem initiator_of_after {draws : Draws} {env : Envelope} {session : Option DeviceSession}
    {init : Initiator}
    (h : DeviceSession.after draws env session = some (.unpaired (.initiator init))) :
    ∃ before, session = some (.unpaired (.initiator before)) := by
  unfold DeviceSession.after at h
  split at h
  · obtain ⟨responder, -, hresponder⟩ := Option.map_eq_some_iff.mp h
    cases hresponder
  · exact ⟨_, rfl⟩
  · exact ⟨_, rfl⟩
  · exact ⟨_, rfl⟩
  · obtain ⟨outcome, -, hpaired⟩ := Option.map_eq_some_iff.mp h
    cases hpaired
  · exact ⟨init, h⟩

/-- A session map in which only one device's entry has changed. -/
def Sessions.withSession (s : Sessions) (deviceId : Uuid) (session : Option DeviceSession) :
    Sessions :=
  { s with pairing := s.pairing.set deviceId session }

theorem Sessions.withSession_get {s : Sessions} {deviceId : Uuid} {session : Option DeviceSession}
    (h : s.pairing.get deviceId = session) : s.withSession deviceId session = s := by
  rw [withSession, KeyMap.set_get h]

/-- Without an Initiator, a challenge and a confirmation are ignored. -/
theorem ignored_of_no_initiator (draws : Draws) {env : Envelope} {session : Option DeviceSession}
    (htype : env.messageType = .devicePairChallenge ∨ env.messageType = .devicePairConfirm)
    (hsession : ∀ init, session ≠ some (.unpaired (.initiator init))) (ctx : WsContext) :
    DeviceSession.after draws env session = session ∧
      DeviceSession.reply ctx draws env session = none := by
  constructor
  · unfold DeviceSession.after
    split <;> simp_all
  · unfold DeviceSession.reply
    split <;> simp_all

section Branches

variable (ctx : WsContext) (draws : Draws) {env : Envelope} (s : Sessions)

theorem onHello_eq (h : env.messageType = .deviceHello) :
    s.onHello draws env.deviceId =
      s.withSession env.deviceId (DeviceSession.after draws env (s.pairing.get env.deviceId)) := by
  cases hsession : s.pairing.get env.deviceId with
  | some session =>
    have hafter : DeviceSession.after draws env (some session) = some session := by
      simp [DeviceSession.after, h]
    rw [hafter, Sessions.withSession_get hsession]
    simp [Sessions.onHello, hsession]
  | none =>
    cases hstart : Responder.start draws env.deviceId with
    | ok responder =>
      simp [Sessions.onHello, hsession, hstart, DeviceSession.after, h, Sessions.insert,
        Sessions.withSession, Except.toOption]
    | error e =>
      simp [Sessions.onHello, hsession, hstart, DeviceSession.after, h, Except.toOption,
        Sessions.withSession, KeyMap.remove_get hsession]

theorem onPairChallenge_eq (h : env.messageType = .devicePairChallenge) :
    s.onPairChallenge ctx draws env =
      (DeviceSession.reply ctx draws env (s.pairing.get env.deviceId),
        s.withSession env.deviceId
          (DeviceSession.after draws env (s.pairing.get env.deviceId))) := by
  by_cases hinit : ∃ init, s.pairing.get env.deviceId = some (.unpaired (.initiator init))
  · obtain ⟨init, hinit⟩ := hinit
    cases hchallenge : init.onChallenge draws env with
    | ok next =>
      simp [Sessions.onPairChallenge, takeUnpairedInitiator_initiator hinit, hinit, hchallenge,
        DeviceSession.reply, DeviceSession.after, h, Sessions.withSession, Sessions.insert]
    | error e =>
      simp [Sessions.onPairChallenge, takeUnpairedInitiator_initiator hinit, hinit, hchallenge,
        DeviceSession.reply, DeviceSession.after, h, Sessions.withSession, Sessions.insert]
  · have hnone := fun init heq ↦ hinit ⟨init, heq⟩
    obtain ⟨hkeep, hsilent⟩ := ignored_of_no_initiator draws (.inl h) hnone ctx
    rw [hkeep, hsilent, Sessions.withSession_get rfl]
    simp [Sessions.onPairChallenge, takeUnpairedInitiator_other hnone]

theorem onPairConfirm_eq (h : env.messageType = .devicePairConfirm) :
    s.onPairConfirm ctx draws env =
      (DeviceSession.reply ctx draws env (s.pairing.get env.deviceId),
        s.withSession env.deviceId
          (DeviceSession.after draws env (s.pairing.get env.deviceId))) := by
  by_cases hinit : ∃ init, s.pairing.get env.deviceId = some (.unpaired (.initiator init))
  · obtain ⟨init, hinit⟩ := hinit
    cases hconfirm : PairConfirm.parse env.payload with
    | error e =>
      simp [Sessions.onPairConfirm, takeUnpairedInitiator_initiator hinit, hinit, hconfirm,
        DeviceSession.reply, DeviceSession.after, h, Sessions.withSession, Except.toOption]
    | ok confirm =>
      obtain ⟨accepted⟩ := confirm
      cases accepted <;>
        simp [Sessions.onPairConfirm, takeUnpairedInitiator_initiator hinit, hinit, hconfirm,
          DeviceSession.reply, DeviceSession.after, h, Sessions.withSession, Sessions.insert,
          Except.toOption]
  · have hnone := fun init heq ↦ hinit ⟨init, heq⟩
    obtain ⟨hkeep, hsilent⟩ := ignored_of_no_initiator draws (.inr h) hnone ctx
    rw [hkeep, hsilent, Sessions.withSession_get rfl]
    simp [Sessions.onPairConfirm, takeUnpairedInitiator_other hnone]

theorem onPairComplete_eq (h : env.messageType = .devicePairComplete) :
    s.onPairComplete env =
      s.withSession env.deviceId (DeviceSession.after draws env (s.pairing.get env.deviceId)) := by
  cases hsession : s.pairing.get env.deviceId with
  | none =>
    simp [Sessions.onPairComplete, takeUnpairedInitiator_other, takeUnpairedResponder_other,
      hsession, DeviceSession.after, h, Sessions.withSession, KeyMap.remove_get hsession]
  | some session =>
    rcases session with (init | responder) | paired
    · cases hcomplete : init.onComplete env <;>
        simp [Sessions.onPairComplete, takeUnpairedInitiator_initiator hsession, hcomplete,
          DeviceSession.after, h, Sessions.withSession, Sessions.insert, Except.toOption]
    · cases hcomplete : responder.onComplete env <;>
        simp [Sessions.onPairComplete, takeUnpairedInitiator_other,
          takeUnpairedResponder_responder hsession, hsession, hcomplete, DeviceSession.after, h,
          Sessions.withSession, Sessions.insert, Except.toOption]
    · simp [Sessions.onPairComplete, takeUnpairedInitiator_other, takeUnpairedResponder_other,
        hsession, DeviceSession.after, h, Sessions.withSession, KeyMap.insert_get hsession]

end Branches

/-- Only a `device.pair.request` parks a request. -/
theorem pending_after_of_ne {draws : Draws} {env : Envelope} (h : env.messageType ≠ .devicePairRequest)
    (pending : Option PendingIncoming) : PendingIncoming.after draws env pending = pending := by
  unfold PendingIncoming.after
  split
  · contradiction
  · rfl

/-- A dispatch is a step of the named device's session and parked request, and of nothing else. -/
theorem dispatch_eq (ctx : WsContext) (draws : Draws) (env : Envelope) (s : Sessions) :
    dispatch ctx draws env s =
      (DeviceSession.reply ctx draws env (s.pairing.get env.deviceId), {
        pairing := s.pairing.set env.deviceId
          (DeviceSession.after draws env (s.pairing.get env.deviceId))
        pendingIncoming := s.pendingIncoming.set env.deviceId
          (PendingIncoming.after draws env (s.pendingIncoming.get env.deviceId)) }) := by
  have hparked : env.messageType ≠ .devicePairRequest →
      s.pendingIncoming.set env.deviceId
        (PendingIncoming.after draws env (s.pendingIncoming.get env.deviceId)) =
      s.pendingIncoming := fun h ↦ KeyMap.set_get (pending_after_of_ne h _).symm
  unfold dispatch
  split
  · next h =>
    rw [onHello_eq draws s h, hparked (by simp [h])]
    simp [DeviceSession.reply, h, Sessions.withSession]
  · next h =>
    rw [hparked (by simp [h])]
    simp [DeviceSession.reply, DeviceSession.after, h, KeyMap.set_get]
  · next h =>
    simp [DeviceSession.reply, DeviceSession.after, PendingIncoming.after, h, KeyMap.set_get,
      Sessions.onPairRequest]
  · next h =>
    rw [onPairChallenge_eq ctx draws s h, hparked (by simp [h])]
    rfl
  · next h =>
    rw [onPairConfirm_eq ctx draws s h, hparked (by simp [h])]
    rfl
  · next h =>
    rw [onPairComplete_eq draws s h, hparked (by simp [h])]
    simp [DeviceSession.reply, h, Sessions.withSession]
  · next hhello hheartbeat hrequest hchallenge hconfirm hcomplete =>
    have hkeep : DeviceSession.after draws env (s.pairing.get env.deviceId) =
        s.pairing.get env.deviceId := by
      unfold DeviceSession.after
      split <;> simp_all
    have hsilent : DeviceSession.reply ctx draws env (s.pairing.get env.deviceId) = none := by
      unfold DeviceSession.reply
      split <;> simp_all
    rw [hkeep, hsilent, hparked hrequest, KeyMap.set_get rfl]

end PhoneBridge.Net
