import PhoneBridge.Crypto.Cert
import PhoneBridge.Crypto.PairingCode
import PhoneBridge.Proto.Envelope
import PhoneBridge.Library.Result

/-!
# The pairing state machines of the Rust side

`pairing.rs`: the initiator (the desktop clicked "Pair") and the responder (the phone said hello
first). What a call takes from its surroundings (the clock, a fresh message id, a fresh identity,
a fresh keypair) comes in as one record of draws.
-/

namespace PhoneBridge.Net

open Library Proto Crypto

/-- What one step takes from its surroundings. -/
structure Draws where
  now : Int64
  freshId : Uuid
  identity : Except CertError Identity
  ephemeral : Except EcdhError EphemeralKeyPair

/-- Construct an envelope with the drawn id and the drawn time. -/
def Draws.envelope (draws : Draws) (messageType : MessageType) (deviceId : Uuid) (payload : Json) :
    Envelope :=
  Envelope.new draws.freshId draws.now messageType deviceId payload

/-- Draws for examples. -/
def sampleDraws : Draws where
  now := 1000
  freshId := .nil
  identity := .ok sampleIdentity
  ephemeral := .ok sampleKeyPair

/-- Errors from the pairing state machine. -/
inductive PairingError
  | badState (expected : String) (got : MessageType)
  | ecdh (error : EcdhError)
  | badCode (code : String)
  | badCert (reason : String)
  | expired (now expires : Int64)
  | serde (error : SerdeError)
  | cert (error : CertError)
  deriving DecidableEq, Repr

/-- The text of an error; the wording of a deserialization error is the JSON library's. -/
def PairingError.message (serdeMessage : SerdeError → String) : PairingError → String
  | .badState expected got =>
    let variant := got.variant
    s!"invalid state transition: expected {expected}, got {variant}"
  | .ecdh error => let reason := error.message; s!"ECDH error: {reason}"
  | .badCode code => s!"malformed pairing code: {code}"
  | .badCert reason => s!"malformed cert: {reason}"
  | .expired now expires =>
    let nowMs := now.toInt
    let expiresMs := expires.toInt
    s!"pairing code expired (now={nowMs}, expires={expiresMs})"
  | .serde error => let reason := serdeMessage error; s!"serialize error: {reason}"
  | .cert error => let reason := error.message; s!"cert generation failed: {reason}"

/-- Successful outcome of a pairing exchange. -/
structure PairingOutcome where
  peerDeviceId : Uuid
  peerFingerprint : String
  peerCertPem : String
  deriving DecidableEq, Repr

/-- Read a `device.pair.complete` and validate its fingerprint and its certificate. -/
def readComplete (env : Envelope) : Except PairingError PairComplete := do
  let complete ← (env.parsePayload PairComplete.parse).mapError .serde
  let _ ← (parseFingerprint complete.certFingerprint).mapError fun e ↦ .badCert e.message
  ensure (Text.contains complete.certPem pemMarker = true) (.badCert "missing BEGIN CERTIFICATE")
  return complete

/-- Both roles check the peer's certificate in the same way. -/
def checkComplete (peerDeviceId : Uuid) (env : Envelope) : Except PairingError PairingOutcome := do
  let complete ← readComplete env
  return {
    peerDeviceId
    peerFingerprint := complete.certFingerprint
    peerCertPem := complete.certPem }

theorem readComplete_eq_ok {env : Envelope} {complete : PairComplete} :
    readComplete env = .ok complete ↔
      PairComplete.parse env.payload = .ok complete ∧
        (∃ bytes, parseFingerprint complete.certFingerprint = .ok bytes) ∧
        Text.contains complete.certPem pemMarker = true := by
  simp only [readComplete, bind_eq_ok, mapError_eq_ok, Envelope.parsePayload_eq, ensure_eq_ok]
  constructor
  · rintro ⟨read, hparse, bytes, hbytes, -, hmarker, hread⟩
    cases hread
    exact ⟨hparse, ⟨bytes, hbytes⟩, hmarker⟩
  · rintro ⟨hparse, ⟨bytes, hbytes⟩, hmarker⟩
    exact ⟨complete, hparse, bytes, hbytes, (), hmarker, rfl⟩

/-! ## Initiator -/

/-- Initiator: about to send `device.pair.request`. -/
structure Initiator where
  identity : Identity
  peerDeviceId : Uuid
  peerName : String
  ephemeral : Option EphemeralKeyPair
  peerEphemeralPub : Option PublicKey
  challengeCode : Option String

namespace Initiator

/-- Begin pairing. Takes a fresh identity and an ephemeral keypair. -/
def start (draws : Draws) (peerDeviceId : Uuid) (peerName : String) :
    Except PairingError Initiator := do
  let identity ← draws.identity.mapError .cert
  let ephemeral ← draws.ephemeral.mapError .ecdh
  return {
    identity, peerDeviceId, peerName
    ephemeral := some ephemeral
    peerEphemeralPub := none
    challengeCode := none }

/-- Build the `device.pair.request` envelope. -/
def buildRequestEnvelope (init : Initiator) (draws : Draws) (ourDeviceId : Uuid) :
    Except PairingError Envelope :=
  match init.ephemeral with
  | none => .error (.badState "ephemeral keypair present" .devicePairRequest)
  | some ephemeral =>
    .ok (draws.envelope .devicePairRequest ourDeviceId
      (PairRequest.toValue { ephemeralPubkey := ephemeral.publicKey.toBase64 }))

/-- Accept a `device.pair.challenge` envelope. Validates the code shape and the expiry. -/
def onChallenge (init : Initiator) (draws : Draws) (env : Envelope) :
    Except PairingError Initiator := do
  ensure (env.messageType = .devicePairChallenge)
    (.badState "device.pair.challenge" env.messageType)
  let challenge ← (env.parsePayload PairChallenge.parse).mapError .serde
  ensure (IsFourDigits challenge.code) (.badCode challenge.code)
  ensure (draws.now ≤ challenge.expiresAt) (.expired draws.now challenge.expiresAt)
  let peerPub ← (PublicKey.fromBase64 challenge.ephemeralPubkey).mapError .ecdh
  return { init with peerEphemeralPub := some peerPub, challengeCode := some challenge.code }

/-- When a challenge is accepted, and what is recorded of it. -/
theorem onChallenge_eq_ok {init next : Initiator} {draws : Draws} {env : Envelope} :
    init.onChallenge draws env = .ok next ↔
      env.messageType = .devicePairChallenge ∧
      ∃ challenge peerPub, PairChallenge.parse env.payload = .ok challenge ∧
        IsFourDigits challenge.code ∧ draws.now ≤ challenge.expiresAt ∧
        PublicKey.fromBase64 challenge.ephemeralPubkey = .ok peerPub ∧
        next = { init with
          peerEphemeralPub := some peerPub, challengeCode := some challenge.code } := by
  simp [onChallenge, bind_eq_ok, mapError_eq_ok, pure, Except.pure, @eq_comm _ next]

/-- Build the `device.pair.accept` envelope. -/
def buildAcceptEnvelope (init : Initiator) (draws : Draws) (ourDeviceId : Uuid) :
    Except PairingError Envelope :=
  if init.peerEphemeralPub.isNone then
    .error (.badState "challenge received" .devicePairAccept)
  else .ok (draws.envelope .devicePairAccept ourDeviceId (PairAccept.toValue {}))

/-- Build the `device.pair.reject` envelope. -/
def buildRejectEnvelope (_init : Initiator) (draws : Draws) (ourDeviceId : Uuid)
    (reason : String) : Envelope :=
  draws.envelope .devicePairReject ourDeviceId (PairReject.toValue { reason := some reason })

/-- Build the `device.pair.complete` envelope with our long-term cert. -/
def buildCompleteEnvelope (init : Initiator) (draws : Draws) (ourDeviceId : Uuid) : Envelope :=
  draws.envelope .devicePairComplete ourDeviceId
    (PairComplete.toValue {
      certPem := init.identity.certPem
      certFingerprint := init.identity.fingerprint })

/-- Accept the peer's `device.pair.complete`. Validates cert PEM + fingerprint. -/
def onComplete (init : Initiator) (env : Envelope) : Except PairingError PairingOutcome := do
  ensure (env.messageType = .devicePairComplete)
    (.badState "device.pair.complete" env.messageType)
  checkComplete init.peerDeviceId env

theorem onComplete_eq_ok {init : Initiator} {env : Envelope} {outcome : PairingOutcome} :
    init.onComplete env = .ok outcome ↔
      env.messageType = .devicePairComplete ∧ checkComplete init.peerDeviceId env = .ok outcome := by
  simp [onComplete, bind_eq_ok]

end Initiator

/-! ## Responder -/

/-- Responder: about to receive `device.pair.request`. -/
structure Responder where
  identity : Identity
  peerDeviceId : Uuid
  ephemeralPub : Option PublicKey
  code : Option String
  expiresAt : Option Int64
  accepted : Option Bool

namespace Responder

/-- Begin a new responder session. Takes a fresh long-term identity. -/
def start (draws : Draws) (peerDeviceId : Uuid) : Except PairingError Responder := do
  let identity ← draws.identity.mapError .cert
  return {
    identity, peerDeviceId
    ephemeralPub := none
    code := none
    expiresAt := none
    accepted := none }

/-- Accept a `device.pair.request` envelope. Derives the 4-digit code. -/
def onRequest (primitives : Primitives) (responder : Responder) (draws : Draws) (env : Envelope) :
    Except PairingError Responder := do
  ensure (env.messageType = .devicePairRequest)
    (.badState "device.pair.request" env.messageType)
  let req ← (env.parsePayload PairRequest.parse).mapError .serde
  let peerPub ← (PublicKey.fromBase64 req.ephemeralPubkey).mapError .ecdh
  let ephemeral ← draws.ephemeral.mapError .ecdh
  let shared ← (ephemeral.agree primitives peerPub).mapError .ecdh
  return { responder with
    ephemeralPub := some ephemeral.publicKey
    code := some (derivePairingCode primitives.hmacSha256 shared)
    expiresAt := some (draws.now + 30000) }

/-- Build the `device.pair.challenge` envelope. -/
def buildChallengeEnvelope (responder : Responder) (draws : Draws) (ourDeviceId : Uuid) :
    Except PairingError Envelope :=
  match responder.ephemeralPub, responder.code, responder.expiresAt with
  | none, _, _ => .error (.badState "request received" .devicePairChallenge)
  | _, none, _ => .error (.badState "code computed" .devicePairChallenge)
  | _, _, none => .error (.badState "expires_at set" .devicePairChallenge)
  | some ephemeralPub, some code, some expiresAt =>
    .ok (draws.envelope .devicePairChallenge ourDeviceId
      (PairChallenge.toValue { ephemeralPubkey := ephemeralPub.toBase64, code, expiresAt }))

/-- User accepted/rejected. Build the `device.pair.confirm` envelope. -/
def buildConfirmEnvelope (responder : Responder) (draws : Draws) (ourDeviceId : Uuid)
    (accepted : Bool) : Except PairingError (Envelope × Responder) :=
  if responder.code.isNone then .error (.badState "request received" .devicePairConfirm)
  else .ok (draws.envelope .devicePairConfirm ourDeviceId (PairConfirm.toValue { accepted }),
    { responder with accepted := some accepted })

/-- Build the responder's own `device.pair.complete` (carries our cert). -/
def buildCompleteEnvelope (responder : Responder) (draws : Draws) (ourDeviceId : Uuid) :
    Except PairingError Envelope :=
  if responder.accepted.getD false then
    .ok (draws.envelope .devicePairComplete ourDeviceId
      (PairComplete.toValue {
        certPem := responder.identity.certPem
        certFingerprint := responder.identity.fingerprint }))
  else .error (.badState "user accepted" .devicePairComplete)

/-- Accept the initiator's `device.pair.complete`. Validates cert PEM + fingerprint. -/
def onComplete (responder : Responder) (env : Envelope) : Except PairingError PairingOutcome := do
  ensure (responder.accepted.getD false = true) (.badState "user accepted" env.messageType)
  ensure (env.messageType = .devicePairComplete)
    (.badState "device.pair.complete" env.messageType)
  checkComplete responder.peerDeviceId env

theorem onComplete_eq_ok {responder : Responder} {env : Envelope} {outcome : PairingOutcome} :
    responder.onComplete env = .ok outcome ↔
      responder.accepted = some true ∧ env.messageType = .devicePairComplete ∧
        checkComplete responder.peerDeviceId env = .ok outcome := by
  cases haccepted : responder.accepted <;> simp [onComplete, bind_eq_ok, haccepted]

end Responder

/-- Build a `device.hello` envelope for the local daemon identity. -/
def buildHelloEnvelope (draws : Draws) (ourDeviceId : Uuid) (name pubkeyB64 : String)
    (port : UInt16) : Envelope :=
  draws.envelope .deviceHello ourDeviceId (DeviceHello.toValue {
    name
    deviceType := .android
    protocolVersion := 1
    pubkey := pubkeyB64
    port := some port
    manufacturer := none
    model := none
    hardwareId := none })

end PhoneBridge.Net
