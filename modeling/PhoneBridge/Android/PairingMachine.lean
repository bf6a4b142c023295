import PhoneBridge.Android.Ecdh
import PhoneBridge.Android.Envelope

/-!
# The pairing state machine of the phone

`PairingMachine.kt`, with the routing of incoming envelopes in `BridgeService.kt`. A call returns
the envelope to send, if any, and the machine after it. The clock, a fresh message id and a fresh
keypair come in as one record of draws.
-/

namespace PhoneBridge.Android

open Library Kotlinx Crypto

/-- Where the pairing stands. -/
inductive PairingState
  | idle
  | showingCode (code : String) (expiresAtMs : Int64) (peerDeviceId peerEphemeralPubB64 : String)
  | confirming (code peerDeviceId : String)
  | paired (ourDeviceId peerDeviceId peerFingerprint : String)
  | failed (reason : String)
  | initiating (startedAtMs : Int64)
  deriving DecidableEq, Repr

/-- The long-term keypair with its certificate. -/
structure IdentityWithKey where
  keyPair : KeyPair
  pem : String
  fingerprint : String

/-- What the persistent store hands out: the same device id and identity on every call. -/
structure IdentityStore where
  deviceId : String
  identity : IdentityWithKey

/-- A store for examples: the phone 1 with a well-formed identity. -/
def sampleStore : IdentityStore where
  deviceId := Uuid.toText ⟨1⟩
  identity := {
    keyPair := { secret := 1, point := { x := 0, y := 0 } }
    pem := sampleIdentity.certPem
    fingerprint := sampleIdentity.fingerprint }

/-- What one call takes from its surroundings. -/
structure Draws where
  now : Int64
  freshId : Uuid
  keyPair : KeyPair

/-- Draws for examples. -/
def sampleDraws : Draws where
  now := 1000
  freshId := .nil
  keyPair := sampleStore.identity.keyPair

/-- An envelope with the drawn id and the drawn time. -/
def Draws.envelope (draws : Draws) (type deviceId : String) (payload : Json) : Envelope :=
  { id := draws.freshId.toText, ts := draws.now, type, deviceId, payload }

/-- The Android side of the pairing protocol. -/
structure PairingMachine where
  state : PairingState := .idle
  ephemeral : Option KeyPair := none
  longTerm : Option IdentityWithKey := none

namespace PairingMachine

variable (jce : Jce) (lexer : Lexer) (store : IdentityStore) (draws : Draws)

/-- Lazily load (or generate) the persistent long-term identity. -/
def ensureIdentity (m : PairingMachine) : PairingMachine :=
  { m with longTerm := some (m.longTerm.getD store.identity) }

def setState (m : PairingMachine) (state : PairingState) : PairingMachine := { m with state }

/-- The phone's `device.pair.confirm`. -/
def makeConfirm (ourDeviceId : String) (accepted : Bool) : Envelope :=
  draws.envelope MessageType.devicePairConfirm ourDeviceId (PairConfirmPayload.encode { accepted })

def onRequest (env : Envelope) (m : PairingMachine) : Option Envelope × PairingMachine :=
  let m := m.ensureIdentity store
  match PairRequestPayload.decode env.payload with
  | .error _ => (none, m.setState (.failed "bad pair.request payload"))
  | .ok req =>
    match Ecdh.publicKeyFromBase64 jce.toKeyReader req.ephemeralPubkey with
    | .error message => (none, m.setState (.failed s!"bad peer pubkey: {message}"))
    | .ok peerPub =>
      let myKp := draws.keyPair
      let m := { m with ephemeral := some myKp }
      match agree jce myKp.secret peerPub with
      | .error message => (none, m.setState (.failed s!"ECDH failed: {message}"))
      | .ok shared =>
        let code := derivePairingCode jce.hmacSha256 shared
        let expiresAt := draws.now + 30000
        let payload : PairChallengePayload :=
          { ephemeralPubkey := myKp.point.toBase64, code, expiresAt }
        (some (draws.envelope MessageType.devicePairChallenge store.deviceId payload.encode),
          m.setState (.showingCode code expiresAt env.deviceId req.ephemeralPubkey))

/-- User explicitly accepted the pairing on the phone. -/
def userAccepts (m : PairingMachine) : Option Envelope × PairingMachine :=
  match m.state with
  | .showingCode code expiresAtMs peerDeviceId _ =>
    if expiresAtMs < draws.now then (none, m.setState (.failed "code expired"))
    else
      (some (makeConfirm draws store.deviceId true), m.setState (.confirming code peerDeviceId))
  | _ => (none, m)

/-- User explicitly rejected the pairing on the phone. -/
def userRejects (reason : String) (m : PairingMachine) : Option Envelope × PairingMachine :=
  match m.state with
  | .showingCode .. => (some (makeConfirm draws store.deviceId false), m.setState (.failed reason))
  | _ => (none, m)

def onAccept (env : Envelope) (ourDeviceId : String) (m : PairingMachine) :
    Envelope × PairingMachine :=
  match m.state with
  | .showingCode code expiresAtMs _ _ =>
    if expiresAtMs < draws.now then
      (makeConfirm draws ourDeviceId false, m.setState (.failed "code expired"))
    else (makeConfirm draws ourDeviceId true, m.setState (.confirming code env.deviceId))
  | _ => (makeConfirm draws ourDeviceId false, m)

def onReject (env : Envelope) (m : PairingMachine) : PairingMachine :=
  let payload := (PairRejectPayload.decode env.payload).toOption
  m.setState (.failed ((payload.bind (·.reason)).getD "rejected by peer"))

/-- The peer that a completed exchange is with. -/
def completePeer (env : Envelope) : PairingState → String
  | .confirming _ peerDeviceId => peerDeviceId
  | .showingCode _ _ peerDeviceId _ => peerDeviceId
  | _ => env.deviceId

/-- Our own `device.pair.complete`, when the long-term identity is loaded. -/
def makeComplete (ourDeviceId : String) (m : PairingMachine) : Option Envelope :=
  m.longTerm.map fun identity ↦
    draws.envelope MessageType.devicePairComplete ourDeviceId
      (PairCompletePayload.encode {
        certPem := identity.pem
        certFingerprint := identity.fingerprint })

def onComplete (env : Envelope) (ourDeviceId : String) (m : PairingMachine) :
    Option Envelope × PairingMachine :=
  match PairCompletePayload.decode env.payload with
  | .error e =>
    let message := lexer.message e
    (none, m.setState (.failed s!"bad pair.complete: {message}"))
  | .ok payload =>
    if Text.contains payload.certPem pemMarker = false then
      (none, m.setState (.failed "peer cert missing BEGIN CERTIFICATE"))
    else if isValidFingerprint payload.certFingerprint = false then
      (none, m.setState (.failed "peer fingerprint malformed"))
    else
      -- the state becomes Paired before the own identity is looked up
      let m := m.setState (.paired ourDeviceId (completePeer env m.state) payload.certFingerprint)
      (makeComplete draws ourDeviceId m, m)

def reset (m : PairingMachine) : PairingMachine := { m with state := .idle, ephemeral := none }

/-! ## Initiator (phone-initiated) side -/

/-- Phone is initiating pairing with the desktop. -/
def initiate (m : PairingMachine) : Option Envelope × PairingMachine :=
  match m.state with
  | .idle =>
    (some (draws.envelope MessageType.devicePairRequest store.deviceId
      (PairRequestPayload.encode { ephemeralPubkey := draws.keyPair.point.toBase64 })),
      { m with state := .initiating draws.now, ephemeral := some draws.keyPair })
  | _ => (none, m)

/-- Handle `device.pair.confirm` from the desktop. -/
def onInitiatorConfirm (env : Envelope) (ourDeviceId : String) (m : PairingMachine) :
    Option Envelope × PairingMachine :=
  match m.state with
  | .initiating _ =>
    match PairConfirmPayload.decode lexer env.payload with
    | .error _ => (none, m)
    | .ok confirm =>
      if confirm.accepted = false then (none, m.setState (.failed "desktop rejected pairing"))
      else if m.longTerm.isNone then (none, m)
      else
        (makeComplete draws ourDeviceId m,
          m.setState (.confirming "(phone-initiated, no code)" env.deviceId))
  | _ => (none, m)

/-- The routing of incoming envelopes; a reply goes back to the desktop. -/
def handleIncoming (env : Envelope) (m : PairingMachine) : Option Envelope × PairingMachine :=
  if env.type = MessageType.devicePairRequest then m.onRequest jce store draws env
  else if env.type = MessageType.devicePairAccept then
    let (reply, m) := m.onAccept draws env store.deviceId
    (some reply, m)
  else if env.type = MessageType.devicePairReject then (none, m.onReject env)
  else if env.type = MessageType.devicePairConfirm then
    m.onInitiatorConfirm lexer draws env store.deviceId
  else if env.type = MessageType.devicePairComplete then
    m.onComplete lexer draws env store.deviceId
  else (none, m)

section Routes

variable {jce lexer store draws} {env : Envelope} {m : PairingMachine}

theorem route_request (h : env.type = MessageType.devicePairRequest) :
    m.handleIncoming jce lexer store draws env = m.onRequest jce store draws env := by
  rw [handleIncoming, if_pos h]

theorem route_accept (h : env.type = MessageType.devicePairAccept) :
    m.handleIncoming jce lexer store draws env =
      (some (m.onAccept draws env store.deviceId).1, (m.onAccept draws env store.deviceId).2) := by
  have hrequest : env.type ≠ MessageType.devicePairRequest := by rw [h]; decide
  rw [handleIncoming, if_neg hrequest, if_pos h]

theorem route_confirm (h : env.type = MessageType.devicePairConfirm) :
    m.handleIncoming jce lexer store draws env =
      m.onInitiatorConfirm lexer draws env store.deviceId := by
  have hrequest : env.type ≠ MessageType.devicePairRequest := by rw [h]; decide
  have haccept : env.type ≠ MessageType.devicePairAccept := by rw [h]; decide
  have hreject : env.type ≠ MessageType.devicePairReject := by rw [h]; decide
  rw [handleIncoming, if_neg hrequest, if_neg haccept, if_neg hreject, if_pos h]

theorem route_complete (h : env.type = MessageType.devicePairComplete) :
    m.handleIncoming jce lexer store draws env = m.onComplete lexer draws env store.deviceId := by
  have hrequest : env.type ≠ MessageType.devicePairRequest := by rw [h]; decide
  have haccept : env.type ≠ MessageType.devicePairAccept := by rw [h]; decide
  have hreject : env.type ≠ MessageType.devicePairReject := by rw [h]; decide
  have hconfirm : env.type ≠ MessageType.devicePairConfirm := by rw [h]; decide
  rw [handleIncoming, if_neg hrequest, if_neg haccept, if_neg hreject, if_neg hconfirm, if_pos h]

theorem route_other (h : env.type ∉ [MessageType.devicePairRequest, MessageType.devicePairAccept,
      MessageType.devicePairReject, MessageType.devicePairConfirm,
      MessageType.devicePairComplete]) :
    m.handleIncoming jce lexer store draws env = (none, m) := by
  simp only [List.mem_cons, List.not_mem_nil, or_false, not_or] at h
  obtain ⟨hrequest, haccept, hreject, hconfirm, hcomplete⟩ := h
  rw [handleIncoming, if_neg hrequest, if_neg haccept, if_neg hreject, if_neg hconfirm,
    if_neg hcomplete]

end Routes

@[simp]
theorem state_setState (m : PairingMachine) (state : PairingState) :
    (m.setState state).state = state := rfl

@[simp]
theorem longTerm_setState (m : PairingMachine) (state : PairingState) :
    (m.setState state).longTerm = m.longTerm := rfl

@[simp]
theorem state_ensureIdentity (m : PairingMachine) : (m.ensureIdentity store).state = m.state := rfl

end PairingMachine

end PhoneBridge.Android
