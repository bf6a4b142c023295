import PhoneBridge.Net.Dispatch

/-!
# What the Initiator checks of a challenge

The code that a phone shows is derived from the shared secret of the two ephemeral keys. The
Initiator checks the shape of the code and its expiry, and does not derive the code itself: the
outcome of a challenge is a function of the challenge and of the clock alone.
-/

namespace PhoneBridge.Net

open Library Proto Crypto

/-- What the Initiator checks of a challenge at some time. -/
def AcceptableChallenge (now : Int64) (challenge : PairChallenge) : Prop :=
  IsFourDigits challenge.code ∧ now ≤ challenge.expiresAt ∧
    ∃ bytes, Base64.decode challenge.ephemeralPubkey = some bytes ∧ bytes.length = 65 ∧
      bytes.head? = some 0x04

/-- The code of a challenge is the one derived from the Initiator's own secret and the key in the
challenge. -/
def CodeMatches (primitives : Primitives) (init : Initiator) (challenge : PairChallenge) : Prop :=
  ∃ ephemeral peerPub shared, init.ephemeral = some ephemeral ∧
    PublicKey.fromBase64 challenge.ephemeralPubkey = .ok peerPub ∧
    ephemeral.agree primitives peerPub = .ok shared ∧
    challenge.code = derivePairingCode primitives.hmacSha256 shared

theorem fromBase64_eq_ok {s : String} :
    (∃ key, PublicKey.fromBase64 s = .ok key) ↔
      ∃ bytes, Base64.decode s = some bytes ∧ bytes.length = 65 ∧ bytes.head? = some 0x04 := by
  unfold PublicKey.fromBase64
  cases hdecode : Base64.decode s with
  | none => simp
  | some bytes =>
    by_cases hlength : bytes.length = 65
    · by_cases hmarker : bytes.head? = some 0x04 <;>
        simp [PublicKey.fromBytes, hlength, hmarker]
    · simp [PublicKey.fromBytes, hlength]

/-- A challenge succeeds by its shape, its expiry and the shape of its key. -/
theorem onChallenge_succeeds_iff {init : Initiator} {draws : Draws} {env : Envelope} :
    (∃ next, init.onChallenge draws env = .ok next) ↔
      env.messageType = .devicePairChallenge ∧
        ∃ challenge, PairChallenge.parse env.payload = .ok challenge ∧
          AcceptableChallenge draws.now challenge := by
  constructor
  · rintro ⟨next, hnext⟩
    obtain ⟨htype, challenge, peerPub, hparse, hcode, hexpiry, hkey, -⟩ :=
      Initiator.onChallenge_eq_ok.mp hnext
    exact ⟨htype, challenge, hparse, hcode, hexpiry, fromBase64_eq_ok.mp ⟨peerPub, hkey⟩⟩
  · rintro ⟨htype, challenge, hparse, hcode, hexpiry, hkey⟩
    obtain ⟨peerPub, hkey⟩ := fromBase64_eq_ok.mpr hkey
    exact ⟨_, Initiator.onChallenge_eq_ok.mpr
      ⟨htype, challenge, peerPub, hparse, hcode, hexpiry, hkey, rfl⟩⟩

/-! ## A relay between the desktop and the phone -/

/-- What a relay answers with in the name of a phone: a key of its own, a code, an expiry and a
certificate of its own. -/
structure Relay where
  key : PublicKey
  code : String
  expiresAt : Int64
  certificate : PairComplete

/-- The relay's `pair.challenge`. -/
def Relay.challenge (relay : Relay) (draws : Draws) (deviceId : Uuid) : Envelope :=
  draws.envelope .devicePairChallenge deviceId (PairChallenge.toValue {
    ephemeralPubkey := relay.key.toBase64
    code := relay.code
    expiresAt := relay.expiresAt })

/-- The relay's `pair.confirm`. -/
def Relay.confirm (_relay : Relay) (draws : Draws) (deviceId : Uuid) : Envelope :=
  draws.envelope .devicePairConfirm deviceId (PairConfirm.toValue { accepted := true })

/-- The relay's `pair.complete`. -/
def Relay.complete (relay : Relay) (draws : Draws) (deviceId : Uuid) : Envelope :=
  draws.envelope .devicePairComplete deviceId relay.certificate.toValue

/-- The relay's three messages are dispatched one after the other. -/
def Relay.exchange (relay : Relay) (ctx : WsContext) (draws : Draws) (deviceId : Uuid)
    (s : Sessions) : Sessions :=
  let challenged := (dispatch ctx draws (relay.challenge draws deviceId) s).2
  let confirmed := (dispatch ctx draws (relay.confirm draws deviceId) challenged).2
  (dispatch ctx draws (relay.complete draws deviceId) confirmed).2

/-- A relay's messages that are well formed and in time. -/
def Relay.WellFormed (relay : Relay) (now : Int64) : Prop :=
  IsFourDigits relay.code ∧ now ≤ relay.expiresAt ∧ relay.key.bytes.head? = some 0x04 ∧
    (∃ bytes, parseFingerprint relay.certificate.certFingerprint = .ok bytes) ∧
    Text.contains relay.certificate.certPem pemMarker = true

/-- The session that the relay's challenge leaves behind. -/
theorem onChallenge_relay {relay : Relay} {draws : Draws} (h : relay.WellFormed draws.now)
    (init : Initiator) (deviceId : Uuid) :
    init.onChallenge draws (relay.challenge draws deviceId) = .ok { init with
      peerEphemeralPub := some relay.key, challengeCode := some relay.code } := by
  obtain ⟨hcode, hexpiry, hmarker, -⟩ := h
  refine Initiator.onChallenge_eq_ok.mpr
    ⟨rfl, _, relay.key, PairChallenge.parse_toValue _, hcode, hexpiry, ?_, rfl⟩
  exact PublicKey.fromBase64_encode relay.key.length_eq hmarker

theorem exchange_relay {relay : Relay} {draws : Draws} (h : relay.WellFormed draws.now)
    (ctx : WsContext) {s : Sessions} {deviceId : Uuid} {init : Initiator}
    (hinit : s.pairing.get deviceId = some (.unpaired (.initiator init))) :
    (relay.exchange ctx draws deviceId s).pairing.get deviceId = some (.paired {
      deviceId
      name := "(unknown)"
      certFingerprint := relay.certificate.certFingerprint }) := by
  have hread : readComplete (relay.complete draws deviceId) = .ok relay.certificate :=
    readComplete_eq_ok.mpr ⟨PairComplete.parse_toValue _, h.2.2.2⟩
  have hchallenge := onChallenge_relay h init deviceId
  have hafterChallenge : DeviceSession.after draws (relay.challenge draws deviceId)
      (some (.unpaired (.initiator init))) = some (.unpaired (.initiator { init with
        peerEphemeralPub := some relay.key, challengeCode := some relay.code })) := by
    have htype : (relay.challenge draws deviceId).messageType = .devicePairChallenge := rfl
    simp [DeviceSession.after, htype, hchallenge]
  have hafterConfirm : ∀ init : Initiator, DeviceSession.after draws (relay.confirm draws deviceId)
      (some (.unpaired (.initiator init))) = some (.unpaired (.initiator init)) := by
    intro init
    have htype : (relay.confirm draws deviceId).messageType = .devicePairConfirm := rfl
    have hparse : PairConfirm.parse (relay.confirm draws deviceId).payload =
        .ok { accepted := true } := PairConfirm.parse_toValue _
    simp [DeviceSession.after, htype, hparse, Except.toOption]
  have hafterComplete : ∀ init : Initiator,
      DeviceSession.after draws (relay.complete draws deviceId)
        (some (.unpaired (.initiator init))) = some (.paired {
          deviceId
          name := "(unknown)"
          certFingerprint := relay.certificate.certFingerprint }) := by
    intro init
    have htype : (relay.complete draws deviceId).messageType = .devicePairComplete := rfl
    have hdevice : (relay.complete draws deviceId).deviceId = deviceId := rfl
    simp [DeviceSession.after, htype, Initiator.onComplete, checkComplete, hread, ensure, bind,
      Except.bind, pure, Except.pure, Except.toOption, Sessions.pairedWith, hdevice]
  have hdevices : (relay.challenge draws deviceId).deviceId = deviceId ∧
      (relay.confirm draws deviceId).deviceId = deviceId ∧
      (relay.complete draws deviceId).deviceId = deviceId := ⟨rfl, rfl, rfl⟩
  simp only [Relay.exchange, dispatch_eq, hdevices.1, hdevices.2.1, hdevices.2.2,
    KeyMap.get_set_self, hinit, hafterChallenge, hafterConfirm, hafterComplete]

/-- Whether a challenge is accepted depends on its shape, its expiry and the clock, and not on the
Initiator; a relay's challenge is accepted and its exchange completes, whatever code the keys
derive. -/
theorem challenge_outcome_ignores_code (init : Initiator) (draws : Draws) (env : Envelope) :
    ((∃ next, init.onChallenge draws env = .ok next) ↔
      env.messageType = .devicePairChallenge ∧
        ∃ challenge, PairChallenge.parse env.payload = .ok challenge ∧
          AcceptableChallenge draws.now challenge) ∧
    (∀ other : Initiator, (∃ next, other.onChallenge draws env = .ok next) ↔
      ∃ next, init.onChallenge draws env = .ok next) ∧
    ∀ (relay : Relay) (ctx : WsContext) (s : Sessions) (deviceId : Uuid),
      relay.WellFormed draws.now →
      s.pairing.get deviceId = some (.unpaired (.initiator init)) →
      (∃ next, init.onChallenge draws (relay.challenge draws deviceId) = .ok next) ∧
      (relay.exchange ctx draws deviceId s).pairing.get deviceId = some (.paired {
        deviceId
        name := "(unknown)"
        certFingerprint := relay.certificate.certFingerprint }) := by
  refine ⟨onChallenge_succeeds_iff, fun other ↦ ?_, fun relay ctx s deviceId hrelay hinit ↦ ?_⟩
  · rw [onChallenge_succeeds_iff, onChallenge_succeeds_iff]
  · exact ⟨⟨_, onChallenge_relay hrelay init deviceId⟩, exchange_relay hrelay ctx hinit⟩

/-- Primitives with a constant secret and a constant hash: every derived code is `0000`. -/
def constantPrimitives : Primitives where
  hmacSha256 := fun _ _ ↦ List.replicate 32 0
  agreeEphemeral := fun _ _ ↦ some (List.replicate 32 0)

/-- A relay that shows the code `1234`. -/
def sampleRelay : Relay where
  key := sampleKeyPair.publicKey
  code := "1234"
  expiresAt := 30000
  certificate := {
    certPem := sampleIdentity.certPem
    certFingerprint := sampleIdentity.fingerprint }

def sampleInitiator : Initiator where
  identity := sampleIdentity
  peerDeviceId := ⟨1⟩
  peerName := "center"
  ephemeral := some sampleKeyPair
  peerEphemeralPub := none
  challengeCode := none

theorem sampleRelay_wellFormed : sampleRelay.WellFormed sampleDraws.now :=
  ⟨by decide +kernel, by decide, rfl, ⟨_, parseFingerprint_certFingerprint _⟩, by decide⟩

theorem sampleRelay_accepted :
    (∃ next, sampleInitiator.onChallenge sampleDraws (sampleRelay.challenge sampleDraws ⟨1⟩) =
      .ok next) ∧
    (sampleRelay.exchange sampleContext sampleDraws ⟨1⟩
      (Sessions.empty.insert ⟨1⟩ (.unpaired (.initiator sampleInitiator)))).pairing.get ⟨1⟩ =
      some (.paired {
        deviceId := ⟨1⟩
        name := "(unknown)"
        certFingerprint := sampleRelay.certificate.certFingerprint }) :=
  (challenge_outcome_ignores_code sampleInitiator sampleDraws
    (sampleRelay.challenge sampleDraws ⟨1⟩)).2.2 sampleRelay sampleContext _ ⟨1⟩
    sampleRelay_wellFormed rfl

/-- A challenge whose code is not the derived one succeeds. -/
theorem mismatched_code_accepted : ¬ ∀ (primitives : Primitives) (init next : Initiator)
    (draws : Draws) (env : Envelope), init.onChallenge draws env = .ok next →
      ∃ challenge, PairChallenge.parse env.payload = .ok challenge ∧
        CodeMatches primitives init challenge := by
  intro h
  obtain ⟨challenge, hparse, ephemeral, peerPub, shared, -, -, hshared, hcode⟩ :=
    h constantPrimitives sampleInitiator _ sampleDraws _
      (onChallenge_relay sampleRelay_wellFormed sampleInitiator ⟨1⟩)
  cases (PairChallenge.parse_toValue _).symm.trans hparse
  cases hshared
  revert hcode
  decide
end PhoneBridge.Net
