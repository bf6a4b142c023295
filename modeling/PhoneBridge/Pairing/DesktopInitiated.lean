import PhoneBridge.Pairing.PhoneInitiated

/-!
# Pairing that the desktop initiates

`pair_start` stores an Initiator and sends the `pair.request`; the phone answers with a challenge
and shows the code; the user accepts or rejects; the certificates are exchanged. Whatever else the
phone sends in between, and in whatever order the deliveries happen, both sides end in states that
match the user's decision.
-/

namespace PhoneBridge.Pairing

open Library Proto Net MessageCenter Android Crypto

variable {σ : Type}

/-- Both identities are well formed, and the desktop's key is an uncompressed point that the
phone's platform accepts, with shared secrets of 32 bytes. -/
structure Honest (setup : Setup σ) (identity : Identity) (key : PublicKey) : Prop where
  phone : IsCertificate setup.store.identity.pem setup.store.identity.fingerprint
  desktop : IsCertificate identity.certPem identity.fingerprint
  marker : key.bytes.head? = some 0x04
  accepts : ∃ point, setup.jce.generatePublic (Ecdh.pointOf key.bytes) = .ok point ∧
    ∀ secret, ∃ bytes, setup.jce.generateSecret secret point = .ok bytes ∧ bytes.length = 32

/-- The phone reads the desktop's key and can agree with it. -/
theorem Honest.agrees {setup : Setup σ} {identity : Identity} {key : PublicKey}
    (honest : Honest setup identity key) :
    ∃ point, Ecdh.publicKeyFromBase64 setup.jce.toKeyReader key.toBase64 = .ok point ∧
      ∀ secret, ∃ shared, agree setup.jce secret point = .ok shared := by
  obtain ⟨point, hpoint, hsecrets⟩ := honest.accepts
  refine ⟨point, (publicKeyFromBase64_toBase64 setup.jce.toKeyReader honest.marker).trans hpoint,
    fun secret ↦ ?_⟩
  obtain ⟨bytes, hbytes, hlength⟩ := hsecrets secret
  exact ⟨⟨bytes, hlength⟩, by simp [agree, hbytes, hlength]⟩

/-- The phone shows a code. -/
def IsShowing : PairingState → Prop
  | .showingCode .. => True
  | _ => False

instance (state : PairingState) : Decidable (IsShowing state) := by
  unfold IsShowing
  split <;> infer_instance

/-- When the shown code expires. -/
def expiry : PairingState → Option Int64
  | .showingCode _ expiresAtMs _ _ => some expiresAtMs
  | _ => none

/-- The step is part of this flow and comes within the 30 seconds: a challenge is delivered, and a
code is accepted, before it expires. -/
def InTime (duo : Duo σ) : DuoLabel → Prop
  | .deliverUp arrival => ∀ env ∈ duo.up.head?.bind pairingMessage,
    ∀ challenge ∈ (PairChallenge.parse env.payload).toOption,
      arrival.dispatch.now ≤ challenge.expiresAt
  | .userAccepts draws => ∀ expiresAtMs ∈ expiry duo.phone.state, draws.now ≤ expiresAtMs
  | .initiate _ | .incomingAccept _ => False
  | .deliverDown _ | .userRejects _ _ | .traffic _ => True

instance (duo : Duo σ) (label : DuoLabel) : Decidable (InTime duo label) := by
  cases label <;> unfold InTime
  -- the quantifier ranges over the expiry that the phone shows, not over every time
  case userAccepts => exact Option.decidableForallMem _
  all_goals infer_instance

/-! ## The messages of the exchange -/

structure IsRequest (key : PublicKey) (env : Proto.Envelope) : Prop where
  messageType : env.messageType = .devicePairRequest
  payload : env.payload = PairRequest.toValue { ephemeralPubkey := key.toBase64 }

structure IsChallenge (setup : Setup σ) (env : Proto.Envelope) : Prop where
  messageType : env.messageType = .devicePairChallenge
  deviceId : env.deviceId = setup.deviceId
  payload : ∃ challenge peerPub, PairChallenge.parse env.payload = .ok challenge ∧
    IsFourDigits challenge.code ∧ PublicKey.fromBase64 challenge.ephemeralPubkey = .ok peerPub

structure IsConfirmation (setup : Setup σ) (accepted : Bool) (env : Proto.Envelope) : Prop where
  messageType : env.messageType = .devicePairConfirm
  deviceId : env.deviceId = setup.deviceId
  payload : PairConfirm.parse env.payload = .ok { accepted }

structure IsDesktopComplete (identity : Identity) (env : Proto.Envelope) : Prop where
  messageType : env.messageType = .devicePairComplete
  payload : env.payload = PairComplete.toValue {
    certPem := identity.certPem
    certFingerprint := identity.fingerprint }

structure IsPhoneComplete (setup : Setup σ) (env : Proto.Envelope) : Prop where
  messageType : env.messageType = .devicePairComplete
  deviceId : env.deviceId = setup.deviceId
  payload : PairComplete.parse env.payload = .ok {
    certPem := setup.store.identity.pem
    certFingerprint := setup.store.identity.fingerprint }

/-- The session is an Initiator with this identity. -/
def Ours (identity : Identity) (session : Option DeviceSession) : Prop :=
  ∃ init : Initiator, session = some (.unpaired (.initiator init)) ∧ init.identity = identity

/-- How far the exchange has come, with the decision that the user has taken. -/
inductive Stage (setup : Setup σ) (identity : Identity) (key : PublicKey) (duo : Duo σ) :
    Option Bool → Prop
  | requested (env : Proto.Envelope) (hstate : ¬ IsShowing duo.phone.state)
      (hidentity : ∀ own ∈ duo.phone.longTerm, own = setup.store.identity)
      (hrequest : IsRequest key env) (hup : duo.upPairing = [])
      (hdown : duo.downPairing setup = [env]) (hsession : Ours identity (duo.session setup)) :
      Stage setup identity key duo none
  | showing (challenge : Option Proto.Envelope) (hstate : IsShowing duo.phone.state)
      (hidentity : duo.phone.longTerm = some setup.store.identity)
      (hchallenge : ∀ env ∈ challenge, IsChallenge setup env)
      (hup : duo.upPairing = challenge.toList) (hdown : duo.downPairing setup = [])
      (hsession : Ours identity (duo.session setup)) : Stage setup identity key duo none
  | accepted (challenge : Option Proto.Envelope) (confirm : Proto.Envelope)
      (hstate : ∃ code peerDeviceId, duo.phone.state = .confirming code peerDeviceId)
      (hidentity : duo.phone.longTerm = some setup.store.identity)
      (hchallenge : ∀ env ∈ challenge, IsChallenge setup env)
      (hconfirm : IsConfirmation setup true confirm)
      (hup : duo.upPairing = challenge.toList ++ [confirm]) (hdown : duo.downPairing setup = [])
      (hsession : Ours identity (duo.session setup)) : Stage setup identity key duo (some true)
  | answered (complete : Proto.Envelope)
      (hstate : ∃ code peerDeviceId, duo.phone.state = .confirming code peerDeviceId)
      (hidentity : duo.phone.longTerm = some setup.store.identity)
      (hcomplete : IsDesktopComplete identity complete) (hup : duo.upPairing = [])
      (hdown : duo.downPairing setup = [complete])
      (hsession : Ours identity (duo.session setup)) : Stage setup identity key duo (some true)
  | completing (complete : Proto.Envelope)
      (hstate : ∃ peerDeviceId, duo.phone.state =
        .paired setup.store.deviceId peerDeviceId identity.fingerprint)
      (hcomplete : IsPhoneComplete setup complete) (hup : duo.upPairing = [complete])
      (hdown : duo.downPairing setup = []) (hsession : Ours identity (duo.session setup)) :
      Stage setup identity key duo (some true)
  | paired (session : PairedSession)
      (hstate : ∃ peerDeviceId, duo.phone.state =
        .paired setup.store.deviceId peerDeviceId identity.fingerprint)
      (hfingerprint : session.certFingerprint = setup.store.identity.fingerprint)
      (hup : duo.upPairing = []) (hdown : duo.downPairing setup = [])
      (hsession : duo.session setup = some (.paired session)) :
      Stage setup identity key duo (some true)
  | rejected (challenge : Option Proto.Envelope) (confirm : Proto.Envelope)
      (hstate : ∃ reason, duo.phone.state = .failed reason)
      (hchallenge : ∀ env ∈ challenge, IsChallenge setup env)
      (hconfirm : IsConfirmation setup false confirm)
      (hup : duo.upPairing = challenge.toList ++ [confirm]) (hdown : duo.downPairing setup = [])
      (hsession : Ours identity (duo.session setup)) : Stage setup identity key duo (some false)
  | dropped (hstate : ∃ reason, duo.phone.state = .failed reason)
      (hup : duo.upPairing = []) (hdown : duo.downPairing setup = [])
      (hsession : duo.session setup = none ∨
        ∃ responder, duo.session setup = some (.unpaired (.responder responder))) :
      Stage setup identity key duo (some false)

/-- The user's decision after one more step. -/
def decision (state : PairingState) (before : Option Bool) : DuoLabel → Option Bool
  | .userAccepts _ => if IsShowing state then some true else before
  | .userRejects _ _ => if IsShowing state then some false else before
  | _ => before

variable {setup : Setup σ} {identity : Identity} {key : PublicKey} {duo next : Duo σ}
  {label : DuoLabel} {decided : Option Bool}

/-- A step that moves no pairing message leaves the stage as it is. -/
theorem Stage.congr (h : Stage setup identity key duo decided) (hphone : next.phone = duo.phone)
    (hup : next.upPairing = duo.upPairing) (hdown : next.downPairing setup = duo.downPairing setup)
    (hsession : next.session setup = duo.session setup) :
    Stage setup identity key next decided := by
  cases h with
  | requested env hstate hidentity hrequest hup' hdown' hsession' =>
    exact .requested env (hphone ▸ hstate) (hphone ▸ hidentity) hrequest (hup.trans hup')
      (hdown.trans hdown') (hsession ▸ hsession')
  | showing challenge hstate hidentity hchallenge hup' hdown' hsession' =>
    exact .showing challenge (hphone ▸ hstate) (hphone ▸ hidentity) hchallenge (hup.trans hup')
      (hdown.trans hdown') (hsession ▸ hsession')
  | accepted challenge confirm hstate hidentity hchallenge hconfirm hup' hdown' hsession' =>
    exact .accepted challenge confirm (hphone ▸ hstate) (hphone ▸ hidentity) hchallenge hconfirm
      (hup.trans hup') (hdown.trans hdown') (hsession ▸ hsession')
  | answered complete hstate hidentity hcomplete hup' hdown' hsession' =>
    exact .answered complete (hphone ▸ hstate) (hphone ▸ hidentity) hcomplete (hup.trans hup')
      (hdown.trans hdown') (hsession ▸ hsession')
  | completing complete hstate hcomplete hup' hdown' hsession' =>
    exact .completing complete (hphone ▸ hstate) hcomplete (hup.trans hup') (hdown.trans hdown')
      (hsession ▸ hsession')
  | paired session hstate hfingerprint hup' hdown' hsession' =>
    exact .paired session (hphone ▸ hstate) hfingerprint (hup.trans hup') (hdown.trans hdown')
      (hsession.trans hsession')
  | rejected challenge confirm hstate hchallenge hconfirm hup' hdown' hsession' =>
    exact .rejected challenge confirm (hphone ▸ hstate) hchallenge hconfirm (hup.trans hup')
      (hdown.trans hdown') (hsession ▸ hsession')
  | dropped hstate hup' hdown' hsession' =>
    exact .dropped (hphone ▸ hstate) (hup.trans hup') (hdown.trans hdown') (hsession ▸ hsession')

/-! ## What the phone does -/

section Phone

variable {phone : PairingMachine} {env : Proto.Envelope} (draws : Android.Draws)

/-- A request makes the phone show a code, whatever it was doing. -/
theorem react_isRequest (honest : Honest setup identity key) (hrequest : IsRequest key env)
    (hidentity : ∀ own ∈ phone.longTerm, own = setup.store.identity) :
    (∃ challenge, sent (Duo.react setup phone draws env) = [challenge] ∧
      IsChallenge setup challenge) ∧
    IsShowing (Duo.react setup phone draws env).2.state ∧
    (Duo.react setup phone draws env).2.longTerm = some setup.store.identity := by
  obtain ⟨point, hpoint, hagree⟩ := honest.agrees
  obtain ⟨shared, hshared⟩ := hagree draws.keyPair.secret
  have hdecode : PairRequestPayload.decode (Android.Envelope.ofRust env).payload =
      .ok { ephemeralPubkey := key.toBase64 } := by
    rw [Envelope.ofRust, hrequest.payload]
    exact Interop.SamePairRequest.decode_toValue.mpr ⟨rfl⟩
  have hloaded : (phone.ensureIdentity setup.store).longTerm = some setup.store.identity := by
    cases hown : phone.longTerm with
    | none => simp [PairingMachine.ensureIdentity, hown]
    | some own => simp [PairingMachine.ensureIdentity, hown, hidentity own hown]
  rw [react_request phone draws hrequest.messageType]
  simp only [PairingMachine.onRequest, hdecode, hpoint, hshared]
  refine ⟨⟨_, sent_some setup draws (rfl : isPairing .devicePairChallenge = true) _ _,
    rfl, rfl, ?_⟩, trivial, hloaded⟩
  obtain ⟨peerPub, hpeerPub⟩ := draws.keyPair.point.fromBase64_toBase64
  exact ⟨⟨_, _, _⟩, peerPub, Interop.SamePairChallenge.parse_encode.mpr ⟨rfl, rfl, rfl⟩,
    isFourDigits_derivePairingCode _ _, hpeerPub⟩

/-- The user's answer as the desktop reads it. -/
theorem sent_makeConfirm (accepted : Bool) (m : PairingMachine) : ∃ confirm,
    sent (some (PairingMachine.makeConfirm draws setup.store.deviceId accepted), m) = [confirm] ∧
      IsConfirmation setup accepted confirm :=
  ⟨_, sent_some setup draws (rfl : isPairing .devicePairConfirm = true) _ m, rfl, rfl,
    Interop.SamePairConfirm.parse_encode.mpr ⟨rfl⟩⟩

/-- An acceptance in time is sent and leaves the phone waiting for the certificate. -/
theorem userAccepts_showing (setup : Setup σ) (draws : Android.Draws)
    (hshowing : IsShowing phone.state)
    (htime : ∀ expiresAtMs ∈ expiry phone.state, draws.now ≤ expiresAtMs) :
    (∃ confirm, sent (phone.userAccepts setup.store draws) = [confirm] ∧
      IsConfirmation setup true confirm) ∧
    (∃ code peerDeviceId,
      (phone.userAccepts setup.store draws).2.state = .confirming code peerDeviceId) ∧
    (phone.userAccepts setup.store draws).2.longTerm = phone.longTerm := by
  cases hstate : phone.state with
  | showingCode code expiresAtMs peerDeviceId peerKey =>
    have hlate : ¬ expiresAtMs < draws.now := Int64.not_lt.mpr (htime _ (by rw [hstate]; rfl))
    simp only [PairingMachine.userAccepts, hstate, if_neg hlate]
    exact ⟨sent_makeConfirm draws true _, ⟨code, peerDeviceId, rfl⟩, rfl⟩
  | _ => simp [hstate, IsShowing] at hshowing

/-- A rejection is sent and fails the pairing. -/
theorem userRejects_showing (setup : Setup σ) (draws : Android.Draws) (reason : String)
    (hshowing : IsShowing phone.state) :
    (∃ confirm, sent (phone.userRejects setup.store draws reason) = [confirm] ∧
      IsConfirmation setup false confirm) ∧
    (phone.userRejects setup.store draws reason).2.state = .failed reason := by
  cases hstate : phone.state with
  | showingCode code expiresAtMs peerDeviceId peerKey =>
    simp only [PairingMachine.userRejects, hstate]
    exact ⟨sent_makeConfirm draws false _, rfl⟩
  | _ => simp [hstate, IsShowing] at hshowing

/-- Without a code on the screen there is nothing to accept or to reject. -/
theorem userAccepts_not_showing (h : ¬ IsShowing phone.state) :
    phone.userAccepts setup.store draws = (none, phone) := by
  cases hstate : phone.state with
  | showingCode => exact absurd (by rw [hstate]; trivial) h
  | _ => simp [PairingMachine.userAccepts, hstate]

theorem userRejects_not_showing (reason : String) (h : ¬ IsShowing phone.state) :
    phone.userRejects setup.store draws reason = (none, phone) := by
  cases hstate : phone.state with
  | showingCode => exact absurd (by rw [hstate]; trivial) h
  | _ => simp [PairingMachine.userRejects, hstate]

/-- The desktop's certificate pairs a waiting phone, which answers with its own. -/
theorem react_isDesktopComplete (honest : Honest setup identity key)
    (hcomplete : IsDesktopComplete identity env)
    (hstate : ∃ code peerDeviceId, phone.state = .confirming code peerDeviceId)
    (hidentity : phone.longTerm = some setup.store.identity) :
    (∃ complete, sent (Duo.react setup phone draws env) = [complete] ∧
      IsPhoneComplete setup complete) ∧
    ∃ peerDeviceId, (Duo.react setup phone draws env).2.state =
      .paired setup.store.deviceId peerDeviceId identity.fingerprint := by
  obtain ⟨hmarker, digest, hdigest⟩ := honest.desktop
  obtain ⟨code, peerDeviceId, hstate⟩ := hstate
  have hdecode : PairCompletePayload.decode (Android.Envelope.ofRust env).payload =
      .ok { certPem := identity.certPem, certFingerprint := identity.fingerprint } := by
    rw [Envelope.ofRust, hcomplete.payload]
    exact Interop.SamePairComplete.decode_toValue.mpr ⟨rfl, rfl⟩
  have hfingerprint : isValidFingerprint identity.fingerprint = true := by
    rw [hdigest]
    exact isValidFingerprint_certFingerprint digest
  rw [react_complete phone draws hcomplete.messageType]
  simp only [PairingMachine.onComplete, hdecode, hmarker, hfingerprint, Bool.true_eq_false,
    reduceIte]
  refine ⟨?_, _, rfl⟩
  simp only [PairingMachine.makeComplete, PairingMachine.longTerm_setState, hidentity,
    Option.map_some]
  exact ⟨_, sent_some setup draws (rfl : isPairing .devicePairComplete = true) _ _, rfl, rfl,
    Interop.SamePairComplete.parse_encode.mpr ⟨rfl, rfl⟩⟩

end Phone

/-! ## What the desktop does -/

section Desktop

variable {env : Proto.Envelope} {session : Option DeviceSession} (ctx : WsContext)
  (draws : Net.Draws)

/-- A challenge in time is recorded in the Initiator. -/
theorem isChallenge_received (hchallenge : IsChallenge setup env) (hours : Ours identity session)
    (htime : ∀ challenge ∈ (PairChallenge.parse env.payload).toOption,
      draws.now ≤ challenge.expiresAt) :
    Ours identity (DeviceSession.after draws env session) ∧
      DeviceSession.reply ctx draws env session = none := by
  obtain ⟨init, rfl, hidentity⟩ := hours
  obtain ⟨challenge, peerPub, hparse, hdigits, hpeerPub⟩ := hchallenge.payload
  obtain ⟨next, hnext, hkept⟩ :
      ∃ next, init.onChallenge draws env = .ok next ∧ next.identity = identity :=
    ⟨_, Initiator.onChallenge_eq_ok.mpr ⟨hchallenge.messageType, challenge, peerPub, hparse,
      hdigits, htime challenge (by rw [hparse]; rfl), hpeerPub, rfl⟩, hidentity⟩
  constructor
  · refine ⟨next, ?_, hkept⟩
    simp [DeviceSession.after, hchallenge.messageType, hnext]
  · simp [DeviceSession.reply, hchallenge.messageType, hnext]

/-- An acceptance keeps the Initiator and is answered with the certificate. -/
theorem isConfirmation_true_received (hconfirm : IsConfirmation setup true env)
    (hours : Ours identity session) :
    Ours identity (DeviceSession.after draws env session) ∧
      ∃ complete, DeviceSession.reply ctx draws env session = some complete ∧
        IsDesktopComplete identity complete := by
  obtain ⟨init, rfl, rfl⟩ := hours
  constructor
  · refine ⟨init, ?_, rfl⟩
    simp [DeviceSession.after, hconfirm.messageType, hconfirm.payload, Except.toOption]
  · refine ⟨init.buildCompleteEnvelope draws ctx.ourDeviceId, ?_, rfl, rfl⟩
    simp [DeviceSession.reply, hconfirm.messageType, hconfirm.payload, Except.toOption]

/-- A rejection drops the Initiator. -/
theorem isConfirmation_false_received (hconfirm : IsConfirmation setup false env)
    (hours : Ours identity session) :
    DeviceSession.after draws env session = none ∧
      DeviceSession.reply ctx draws env session = none := by
  obtain ⟨init, rfl, rfl⟩ := hours
  constructor
  · simp [DeviceSession.after, hconfirm.messageType, hconfirm.payload, Except.toOption]
  · simp [DeviceSession.reply, hconfirm.messageType, hconfirm.payload, Except.toOption]

/-- The phone's certificate pairs the session with the phone's fingerprint. -/
theorem isPhoneComplete_received (honest : Honest setup identity key)
    (hcomplete : IsPhoneComplete setup env) (hours : Ours identity session) :
    (∃ paired : PairedSession, DeviceSession.after draws env session = some (.paired paired) ∧
      paired.certFingerprint = setup.store.identity.fingerprint) ∧
      DeviceSession.reply ctx draws env session = none := by
  obtain ⟨init, rfl, rfl⟩ := hours
  have hread : readComplete env = .ok {
      certPem := setup.store.identity.pem
      certFingerprint := setup.store.identity.fingerprint } :=
    readComplete_eq_ok.mpr ⟨hcomplete.payload, honest.phone.parses, honest.phone.1⟩
  have houtcome := Initiator.onComplete_eq_ok.mpr ⟨hcomplete.messageType,
    (by simp [checkComplete, hread, bind, Except.bind, pure, Except.pure] :
      checkComplete init.peerDeviceId env = .ok {
        peerDeviceId := init.peerDeviceId
        peerFingerprint := setup.store.identity.fingerprint
        peerCertPem := setup.store.identity.pem })⟩
  constructor
  · refine ⟨{ deviceId := env.deviceId, name := "(unknown)", certFingerprint := _ }, ?_, rfl⟩
    simp [DeviceSession.after, hcomplete.messageType, houtcome, Except.toOption,
      Sessions.pairedWith]
  · simp [DeviceSession.reply, hcomplete.messageType]

end Desktop

/-! ## The stages follow each other -/

section Stages

variable {env : Proto.Envelope}

theorem answer_eq (arrival : Arrival) (hdevice : env.deviceId = setup.deviceId) :
    answer setup duo.center arrival env =
      DeviceSession.reply setup.ctx arrival.dispatch env (duo.session setup) := by
  rw [answer, hdevice, Duo.session]

section Up

variable {arrival : Arrival}
  (hdown : next.downPairing setup = duo.downPairing setup ++
    (answer setup duo.center arrival env).toList.filter fun env ↦ isPairing env.messageType)
  (hsession : env.deviceId = setup.deviceId →
    next.session setup = DeviceSession.after arrival.dispatch env (duo.session setup))

include hdown hsession

theorem deliver_isChallenge (hchallenge : IsChallenge setup env)
    (hours : Ours identity (duo.session setup))
    (htime : ∀ challenge ∈ (PairChallenge.parse env.payload).toOption,
      arrival.dispatch.now ≤ challenge.expiresAt) :
    next.downPairing setup = duo.downPairing setup ∧ Ours identity (next.session setup) := by
  obtain ⟨hafter, hreply⟩ := isChallenge_received setup.ctx arrival.dispatch hchallenge hours htime
  rw [answer_eq arrival hchallenge.deviceId, hreply] at hdown
  exact ⟨by simpa using hdown, hsession hchallenge.deviceId ▸ hafter⟩

theorem deliver_isConfirmation_true (hconfirm : IsConfirmation setup true env)
    (hours : Ours identity (duo.session setup)) :
    (∃ complete, next.downPairing setup = duo.downPairing setup ++ [complete] ∧
      IsDesktopComplete identity complete) ∧ Ours identity (next.session setup) := by
  obtain ⟨hafter, complete, hreply, hcomplete⟩ :=
    isConfirmation_true_received setup.ctx arrival.dispatch hconfirm hours
  rw [answer_eq arrival hconfirm.deviceId, hreply] at hdown
  refine ⟨⟨complete, ?_, hcomplete⟩, hsession hconfirm.deviceId ▸ hafter⟩
  simpa [hcomplete.messageType, isPairing] using hdown

theorem deliver_isConfirmation_false (hconfirm : IsConfirmation setup false env)
    (hours : Ours identity (duo.session setup)) :
    next.downPairing setup = duo.downPairing setup ∧ next.session setup = none := by
  obtain ⟨hafter, hreply⟩ :=
    isConfirmation_false_received setup.ctx arrival.dispatch hconfirm hours
  rw [answer_eq arrival hconfirm.deviceId, hreply] at hdown
  exact ⟨by simpa using hdown, (hsession hconfirm.deviceId).trans hafter⟩

theorem deliver_isPhoneComplete (honest : Honest setup identity key)
    (hcomplete : IsPhoneComplete setup env) (hours : Ours identity (duo.session setup)) :
    next.downPairing setup = duo.downPairing setup ∧
      ∃ paired : PairedSession, next.session setup = some (.paired paired) ∧
        paired.certFingerprint = setup.store.identity.fingerprint := by
  obtain ⟨⟨paired, hafter, hfingerprint⟩, hreply⟩ :=
    isPhoneComplete_received setup.ctx arrival.dispatch honest hcomplete hours
  rw [answer_eq arrival hcomplete.deviceId, hreply] at hdown
  exact ⟨by simpa using hdown, paired, (hsession hcomplete.deviceId).trans hafter, hfingerprint⟩

/-- What a pairing message of the phone does when it reaches the desktop. -/
theorem Stage.deliverUp (honest : Honest setup identity key)
    (h : Stage setup identity key duo decided)
    (htime : ∀ challenge ∈ (PairChallenge.parse env.payload).toOption,
      arrival.dispatch.now ≤ challenge.expiresAt)
    (hup : duo.upPairing = env :: next.upPairing) (hphone : next.phone = duo.phone) :
    Stage setup identity key next decided := by
  rw [eq_comm] at hphone
  cases h with
  | requested request hstate hidentity hrequest hup' => simp [hup'] at hup
  | showing challenge hstate hidentity hchallenge hup' hdown' hours =>
    cases challenge with
    | none => simp [hup'] at hup
    | some challenge =>
      obtain ⟨rfl, hrest⟩ : challenge = env ∧ [] = next.upPairing := by simpa [hup'] using hup
      obtain ⟨hquiet, hkept⟩ :=
        deliver_isChallenge hdown hsession (hchallenge challenge rfl) hours htime
      exact .showing none (hphone ▸ hstate) (hphone ▸ hidentity) (by simp) hrest.symm
        (hquiet.trans hdown') hkept
  | accepted challenge confirm hstate hidentity hchallenge hconfirm hup' hdown' hours =>
    cases challenge with
    | none =>
      obtain ⟨rfl, hrest⟩ : confirm = env ∧ [] = next.upPairing := by simpa [hup'] using hup
      obtain ⟨⟨complete, hqueued, hcomplete⟩, hkept⟩ :=
        deliver_isConfirmation_true hdown hsession hconfirm hours
      exact .answered complete (hphone ▸ hstate) (hphone ▸ hidentity) hcomplete hrest.symm
        (by rw [hqueued, hdown', List.nil_append]) hkept
    | some challenge =>
      obtain ⟨rfl, hrest⟩ : challenge = env ∧ [confirm] = next.upPairing := by
        simpa [hup'] using hup
      obtain ⟨hquiet, hkept⟩ :=
        deliver_isChallenge hdown hsession (hchallenge challenge rfl) hours htime
      exact .accepted none confirm (hphone ▸ hstate) (hphone ▸ hidentity) (by simp) hconfirm
        hrest.symm (hquiet.trans hdown') hkept
  | answered complete hstate hidentity hcomplete hup' => simp [hup'] at hup
  | completing complete hstate hcomplete hup' hdown' hours =>
    obtain ⟨rfl, hrest⟩ : complete = env ∧ [] = next.upPairing := by simpa [hup'] using hup
    obtain ⟨hquiet, session, hpaired, hfingerprint⟩ :=
      deliver_isPhoneComplete hdown hsession honest hcomplete hours
    exact .paired session (hphone ▸ hstate) hfingerprint hrest.symm (hquiet.trans hdown') hpaired
  | paired session hstate hfingerprint hup' => simp [hup'] at hup
  | rejected challenge confirm hstate hchallenge hconfirm hup' hdown' hours =>
    cases challenge with
    | none =>
      obtain ⟨rfl, hrest⟩ : confirm = env ∧ [] = next.upPairing := by simpa [hup'] using hup
      obtain ⟨hquiet, hdropped⟩ := deliver_isConfirmation_false hdown hsession hconfirm hours
      exact .dropped (hphone ▸ hstate) hrest.symm (hquiet.trans hdown') (.inl hdropped)
    | some challenge =>
      obtain ⟨rfl, hrest⟩ : challenge = env ∧ [confirm] = next.upPairing := by
        simpa [hup'] using hup
      obtain ⟨hquiet, hkept⟩ :=
        deliver_isChallenge hdown hsession (hchallenge challenge rfl) hours htime
      exact .rejected none confirm (hphone ▸ hstate) (by simp) hconfirm hrest.symm
        (hquiet.trans hdown') hkept
  | dropped hstate hup' => simp [hup'] at hup

end Up

/-- What a pairing message of the desktop does when it reaches the phone. -/
theorem Stage.deliverDown {draws : Android.Draws} (honest : Honest setup identity key)
    (h : Stage setup identity key duo decided)
    (hdown : duo.downPairing setup = env :: next.downPairing setup)
    (hsession : next.session setup = duo.session setup)
    (hphone : next.phone = (Duo.react setup duo.phone draws env).2)
    (hup : next.upPairing = duo.upPairing ++ sent (Duo.react setup duo.phone draws env)) :
    Stage setup identity key next decided := by
  cases h with
  | requested request hstate hidentity hrequest hup' hdown' hours =>
    obtain ⟨rfl, hrest⟩ : request = env ∧ [] = next.downPairing setup := by
      simpa [hdown'] using hdown
    obtain ⟨⟨challenge, hsent, hchallenge⟩, hshowing, hloaded⟩ :=
      react_isRequest draws honest hrequest hidentity
    exact .showing (some challenge) (hphone ▸ hshowing) (hphone ▸ hloaded)
      (by simpa using hchallenge) (by rw [hup, hup', hsent]; rfl) hrest.symm (hsession ▸ hours)
  | answered complete hstate hidentity hcomplete hup' hdown' hours =>
    obtain ⟨rfl, hrest⟩ : complete = env ∧ [] = next.downPairing setup := by
      simpa [hdown'] using hdown
    obtain ⟨⟨own, hsent, hown⟩, hpaired⟩ :=
      react_isDesktopComplete draws honest hcomplete hstate hidentity
    exact .completing own (hphone ▸ hpaired) hown (by rw [hup, hup', hsent]; rfl) hrest.symm
      (hsession ▸ hours)
  | showing challenge hstate hidentity hchallenge hup' hdown' => simp [hdown'] at hdown
  | accepted challenge confirm hstate hidentity hchallenge hconfirm hup' hdown' =>
    simp [hdown'] at hdown
  | completing complete hstate hcomplete hup' hdown' => simp [hdown'] at hdown
  | paired session hstate hfingerprint hup' hdown' => simp [hdown'] at hdown
  | rejected challenge confirm hstate hchallenge hconfirm hup' hdown' => simp [hdown'] at hdown
  | dropped hstate hup' hdown' => simp [hdown'] at hdown

/-- The phone shows a code exactly in the stage that waits for the decision. -/
theorem Stage.showing_inv (h : Stage setup identity key duo decided)
    (hshowing : IsShowing duo.phone.state) : ∃ challenge : Option Proto.Envelope,
    duo.phone.longTerm = some setup.store.identity ∧ (∀ env ∈ challenge, IsChallenge setup env) ∧
      duo.upPairing = challenge.toList ∧ duo.downPairing setup = [] ∧
      Ours identity (duo.session setup) := by
  cases h with
  | showing challenge hstate hidentity hchallenge hup hdown hours =>
    exact ⟨challenge, hidentity, hchallenge, hup, hdown, hours⟩
  | requested env hstate => exact absurd hshowing hstate
  | accepted challenge confirm hstate | answered complete hstate =>
    obtain ⟨code, peerDeviceId, hstate⟩ := hstate
    rw [hstate] at hshowing
    exact hshowing.elim
  | completing complete hstate | paired session hstate | rejected challenge confirm hstate
  | dropped hstate =>
    obtain ⟨detail, hstate⟩ := hstate
    rw [hstate] at hshowing
    exact hshowing.elim

/-- What the user's click does. -/
theorem Stage.click {result : Option Android.Envelope × PairingMachine}
    (h : Stage setup identity key duo decided) (htime : InTime duo label)
    (hcall : (∃ draws, label = .initiate draws ∧
        result = duo.phone.initiate setup.store draws) ∨
      (∃ draws, label = .userAccepts draws ∧
        result = duo.phone.userAccepts setup.store draws) ∨
      ∃ draws reason, label = .userRejects draws reason ∧
        result = duo.phone.userRejects setup.store draws reason)
    (hphone : next.phone = result.2) (hup : next.upPairing = duo.upPairing ++ sent result)
    (hdown : duo.SameDown setup next) :
    Stage setup identity key next (decision duo.phone.state decided label) := by
  by_cases hshowing : IsShowing duo.phone.state
  · obtain ⟨challenge, hidentity, hchallenge, hup', hdown', hours⟩ := h.showing_inv hshowing
    rcases hcall with ⟨draws, rfl, rfl⟩ | ⟨draws, rfl, rfl⟩ | ⟨draws, reason, rfl, rfl⟩
    · exact htime.elim
    · obtain ⟨⟨confirm, hsent, hconfirm⟩, hstate, hloaded⟩ :=
        userAccepts_showing setup draws hshowing htime
      rw [decision, if_pos hshowing]
      exact .accepted challenge confirm (hphone ▸ hstate) (hphone ▸ hloaded.trans hidentity)
        hchallenge hconfirm (by rw [hup, hup', hsent]) (hdown.down.trans hdown')
        (hdown.session ▸ hours)
    · obtain ⟨⟨confirm, hsent, hconfirm⟩, hstate⟩ :=
        userRejects_showing setup draws reason hshowing
      rw [decision, if_pos hshowing]
      exact .rejected challenge confirm ⟨reason, hphone ▸ hstate⟩ hchallenge hconfirm
        (by rw [hup, hup', hsent]) (hdown.down.trans hdown') (hdown.session ▸ hours)
  · have hnothing : result = (none, duo.phone) ∧
        decision duo.phone.state decided label = decided := by
      rcases hcall with ⟨draws, rfl, rfl⟩ | ⟨draws, rfl, rfl⟩ | ⟨draws, reason, rfl, rfl⟩
      · exact htime.elim
      · exact ⟨userAccepts_not_showing draws hshowing, if_neg hshowing⟩
      · exact ⟨userRejects_not_showing draws reason hshowing, if_neg hshowing⟩
    obtain ⟨rfl, hdecision⟩ := hnothing
    rw [hdecision]
    exact h.congr hphone (by simpa using hup) hdown.down hdown.session

/-- A hello creates a Responder only when the exchange is over. -/
theorem Stage.greeted (h : Stage setup identity key duo decided) (hphone : next.phone = duo.phone)
    (hup : next.upPairing = duo.upPairing) (hdown : next.downPairing setup = duo.downPairing setup)
    (hnone : duo.session setup = none) (responder : Responder)
    (hresponder : next.session setup = some (.unpaired (.responder responder))) :
    Stage setup identity key next decided := by
  have hnot : ¬ Ours identity (duo.session setup) := by
    rintro ⟨init, hinit, -⟩
    rw [hnone] at hinit
    cases hinit
  cases h with
  | dropped hstate hup' hdown' =>
    exact .dropped (hphone ▸ hstate) (hup.trans hup') (hdown.trans hdown')
      (.inr ⟨responder, hresponder⟩)
  | paired session hstate hfingerprint hup' hdown' hsession =>
    rw [hnone] at hsession
    cases hsession
  | requested env hstate hidentity hrequest hup' hdown' hours => exact absurd hours hnot
  | showing challenge hstate hidentity hchallenge hup' hdown' hours => exact absurd hours hnot
  | accepted challenge confirm hstate hidentity hchallenge hconfirm hup' hdown' hours =>
    exact absurd hours hnot
  | answered complete hstate hidentity hcomplete hup' hdown' hours => exact absurd hours hnot
  | completing complete hstate hcomplete hup' hdown' hours => exact absurd hours hnot
  | rejected challenge confirm hstate hchallenge hconfirm hup' hdown' hours =>
    exact absurd hours hnot

/-- Every step in time keeps the exchange in one of its stages. -/
theorem Stage.step (honest : Honest setup identity key)
    (h : Stage setup identity key duo decided) (htime : InTime duo label)
    (hopen : duo.isOpen setup = true) (hstep : duo.step setup label = some next) :
    Stage setup identity key next (decision duo.phone.state decided label) ∧
      next.isOpen setup = true := by
  obtain ⟨heffect, hopen⟩ := effect_of_step hopen hstep
  refine ⟨?_, hopen⟩
  cases heffect with
  | upOther arrival hup hdown hsession =>
    rcases hsession with hsession | ⟨hnone, responder, hresponder⟩
    · exact h.congr hup.phone hup.up hdown hsession
    · exact h.greeted hup.phone hup.up hdown hnone responder hresponder
  | up arrival env hup hphone hdown hsession hhead =>
    exact h.deliverUp hdown hsession honest (htime env hhead) hup hphone
  | downOther draws hup hdown => exact h.congr hup.phone hup.up hdown.down hdown.session
  | down draws env hdown hsession hphone hup => exact h.deliverDown honest hdown hsession hphone hup
  | call label result hcall hphone hup hdown => exact h.click htime hcall hphone hup hdown
  | traffic frame hup hdown => exact h.congr hup.phone hup.up hdown.down hdown.session
  | incomingAccept => exact htime.elim

end Stages

/-! ## Runs that begin with `pair_start` -/

section Start

variable {draws : Net.Draws} {initiator : Initiator} {before queued : Duo σ}

/-- The desktop with this Initiator in its pairing map. -/
def Duo.storeInitiator (setup : Setup σ) (initiator : Initiator) (duo : Duo σ) : Duo σ :=
  { duo with center := { duo.center with
      sessions := duo.center.sessions.insert setup.deviceId (.unpaired (.initiator initiator)) } }

@[simp]
theorem session_storeInitiator (duo : Duo σ) :
    (duo.storeInitiator setup initiator).session setup = some (.unpaired (.initiator initiator)) := by
  simp [Duo.session, Duo.storeInitiator, Sessions.insert]

/-- The phone is connected, no pairing message is in flight and no code of an earlier exchange is
shown. -/
structure Connected (setup : Setup σ) (duo : Duo σ) : Prop where
  registered : duo.center.registry.inner.get setup.deviceId = some setup.conn
  quiet : ¬ IsShowing duo.phone.state
  loaded : ∀ own ∈ duo.phone.longTerm, own = setup.store.identity
  up : duo.upPairing = []
  down : duo.downPairing setup = []

/-- The first half of `pair_start`: the request of this Initiator has been queued. -/
structure Requested (setup : Setup σ) (draws : Net.Draws) (initiator : Initiator)
    (before queued : Duo σ) : Prop where
  start : Initiator.start draws setup.deviceId setup.ctx.ourName = .ok initiator
  queue : ∃ env registry, initiator.buildRequestEnvelope draws setup.ctx.ourDeviceId = .ok env ∧
    before.center.registry.trySend setup.deviceId env = .ok registry ∧
    queued = { before with center := { before.center with registry } }

/-- `pair_start` answers 200 exactly when its request can be queued; it then stores the
Initiator. -/
theorem pairStart_eq_ok {center : Center σ} :
    pairStart setup.ctx draws setup.deviceId before.center =
        ({ status := 200, text := "pair.request sent" }, center) ↔
      ∃ initiator queued, Requested setup draws initiator before queued ∧
        center = (queued.storeInitiator setup initiator).center := by
  constructor
  · intro h
    unfold pairStart at h
    split at h
    · cases h
    split at h
    · cases h
    next initiator hstart =>
      split at h
      · cases h
      next env hbuild =>
        split at h
        · cases h
        · next registry hsend =>
          cases h
          exact ⟨initiator, _, ⟨hstart, env, registry, hbuild, hsend, rfl⟩, rfl⟩
  · rintro ⟨initiator, queued, hrequested, rfl⟩
    obtain ⟨env, registry, hbuild, hsend, rfl⟩ := hrequested.queue
    obtain ⟨tx, hentry, -⟩ := DeviceRegistry.trySend_eq_ok.mp hsend
    have hconnected : before.center.registry.isConnected setup.deviceId = true := by
      simp [DeviceRegistry.isConnected, KeyMap.contains, hentry]
    simp [pairStart, hconnected, hrequested.start, hbuild, hsend, Duo.storeInitiator]

/-- A fresh Initiator holds its ephemeral keypair and has a request to send. -/
theorem Requested.request (h : Requested setup draws initiator before queued) :
    ∃ ephemeral, initiator.ephemeral = some ephemeral ∧
      ∀ env, initiator.buildRequestEnvelope draws setup.ctx.ourDeviceId = .ok env →
        IsRequest ephemeral.publicKey env := by
  obtain ⟨identity, -, ephemeral, -, hinitiator⟩ :
      ∃ identity, draws.identity = .ok identity ∧ ∃ ephemeral, draws.ephemeral = .ok ephemeral ∧
        initiator = {
          identity, peerDeviceId := setup.deviceId, peerName := setup.ctx.ourName
          ephemeral := some ephemeral
          peerEphemeralPub := none
          challengeCode := none } := by
    have hstart := h.start
    simp only [Initiator.start, bind_eq_ok, mapError_eq_ok] at hstart
    obtain ⟨identity, hidentity, ephemeral, hephemeral, hinitiator⟩ := hstart
    cases hinitiator
    exact ⟨identity, hidentity, ephemeral, hephemeral, rfl⟩
  subst hinitiator
  refine ⟨ephemeral, rfl, fun env henv ↦ ?_⟩
  cases henv
  exact ⟨rfl, rfl⟩

/-- Once its request is queued, the exchange is in its first stage, with an open outbox. -/
theorem Requested.stage (hconnected : Connected setup before)
    (h : Requested setup draws initiator before queued) {ephemeral : EphemeralKeyPair}
    (hephemeral : initiator.ephemeral = some ephemeral) :
    Stage setup initiator.identity ephemeral.publicKey (queued.storeInitiator setup initiator)
      none ∧ queued.isOpen setup = true := by
  obtain ⟨own, hown, hrequest⟩ := h.request
  obtain ⟨env, registry, hbuild, hsend, rfl⟩ := h.queue
  obtain ⟨tx, hentry, hopen, -, rfl⟩ := DeviceRegistry.trySend_eq_ok.mp hsend
  cases hconnected.registered.symm.trans hentry
  cases hown.symm.trans hephemeral
  have henv := hrequest env hbuild
  have hbox : (before.center.registry.send setup.conn env).outboxes setup.conn =
      { queue := (before.center.registry.outboxes setup.conn).queue ++ [env]
        receiving := true } := by
    simp [DeviceRegistry.send, DeviceRegistry.setOutbox, Outbox.send, hopen]
  refine ⟨.requested env hconnected.quiet hconnected.loaded henv hconnected.up ?_
    ⟨initiator, session_storeInitiator _, rfl⟩, ?_⟩
  · have hdown : (before.center.registry.outboxes setup.conn).queue.filter
        (fun env ↦ isPairing env.messageType) = [] := hconnected.down
    simp only [Duo.downPairing, Duo.down, Duo.storeInitiator, hbox, List.filter_append, hdown]
    simp [henv.messageType, isPairing]
  · simp [Duo.isOpen, hbox]

end Start

/-- A step, with the decision that the user has taken so far. -/
def decidedStep (setup : Setup σ) : Duo σ × Option Bool → DuoLabel →
    Option (Duo σ × Option Bool)
  | (duo, decided), label => (duo.step setup label).map fun next ↦
    (next, decision duo.phone.state decided label)

/-- No pairing message of the phone reaches the desktop. -/
def Unheard (duo : Duo σ) : DuoLabel → Prop
  | .deliverUp _ => duo.up.head?.bind pairingMessage = none
  | _ => True

theorem decidedStep_eq_some {before after : Duo σ × Option Bool} :
    decidedStep setup before label = some after ↔
      before.1.step setup label = some after.1 ∧
        after.2 = decision before.1.phone.state before.2 label := by
  obtain ⟨next, decided⟩ := after
  simp [decidedStep, @eq_comm _ decided]

/-- A step before the Initiator is stored, as long as the desktop hears no pairing message. -/
theorem Stage.step_early {initiator : Initiator} (honest : Honest setup identity key)
    (h : Stage setup identity key (duo.storeInitiator setup initiator) decided)
    (htime : InTime duo label) (hunheard : Unheard duo label) (hopen : duo.isOpen setup = true)
    (hstep : duo.step setup label = some next) :
    Stage setup identity key (next.storeInitiator setup initiator)
        (decision duo.phone.state decided label) ∧ next.isOpen setup = true := by
  obtain ⟨heffect, hopen⟩ := effect_of_step hopen hstep
  refine ⟨?_, hopen⟩
  have hsame : (next.storeInitiator setup initiator).session setup =
      (duo.storeInitiator setup initiator).session setup := by simp
  cases heffect with
  | upOther arrival hup hdown hsession => exact h.congr hup.phone hup.up hdown hsame
  | up arrival env hup hphone hdown hsession hhead =>
    rw [show duo.up.head?.bind pairingMessage = none from hunheard] at hhead
    cases hhead
  | downOther draws hup hdown => exact h.congr hup.phone hup.up hdown.down hsame
  | down draws env hdown hsession hphone hup => exact h.deliverDown honest hdown hsame hphone hup
  | call label result hcall hphone hup hdown =>
    exact h.click htime hcall hphone hup ⟨hdown.down, hsame⟩
  | traffic frame hup hdown => exact h.congr hup.phone hup.up hdown.down hsame
  | incomingAccept => exact htime.elim

/-- A run of the exchange: `pair_start` queues the request of its Initiator and stores the
Initiator before the desktop hears a pairing message; every step is in time; in the end every
message has been delivered. -/
structure DesktopInitiatedRun (setup : Setup σ) (initiator : Initiator) (final : Duo σ)
    (decided : Option Bool) : Prop where
  run : ∃ draws before queued early late stored heard,
    Connected setup before ∧ Requested setup draws initiator before queued ∧
    Run.exec (decidedStep setup) (queued, none) early = some (stored, heard) ∧
    Run.Throughout (decidedStep setup) (fun s label ↦ InTime s.1 label ∧ Unheard s.1 label)
      (queued, none) early ∧
    Run.exec (decidedStep setup) (stored.storeInitiator setup initiator, heard) late =
      some (final, decided) ∧
    Run.Throughout (decidedStep setup) (fun s label ↦ InTime s.1 label)
      (stored.storeInitiator setup initiator, heard) late
  delivered : final.Delivered setup

theorem stage_of_run {initiator : Initiator} {ephemeral : EphemeralKeyPair} {final : Duo σ}
    (hephemeral : initiator.ephemeral = some ephemeral)
    (honest : Honest setup initiator.identity ephemeral.publicKey)
    (hrun : DesktopInitiatedRun setup initiator final decided) :
    Stage setup initiator.identity ephemeral.publicKey final decided := by
  obtain ⟨draws, before, queued, early, late, stored, heard, hconnected, hrequested, hearly,
    hunheard, hlate, htime⟩ := hrun.run
  have hstored := Run.invariant_of_throughout (fun s ↦
      Stage setup initiator.identity ephemeral.publicKey (s.1.storeInitiator setup initiator) s.2 ∧
        s.1.isOpen setup = true)
    (fun s label t h hguard hstep ↦ by
      obtain ⟨hstep, hdecision⟩ := decidedStep_eq_some.mp hstep
      rw [hdecision]
      exact h.1.step_early honest hguard.1 hguard.2 h.2 hstep)
    hunheard hearly (hrequested.stage hconnected hephemeral)
  have hfinal := Run.invariant_of_throughout (fun s ↦
      Stage setup initiator.identity ephemeral.publicKey s.1 s.2 ∧ s.1.isOpen setup = true)
    (fun s label t h hguard hstep ↦ by
      obtain ⟨hstep, hdecision⟩ := decidedStep_eq_some.mp hstep
      rw [hdecision]
      exact h.1.step honest hguard h.2 hstep)
    htime hlate hstored
  exact hfinal.1

/-- Neither side is Paired, and the desktop has dropped the Initiator. -/
def NoPairing (setup : Setup σ) (duo : Duo σ) : Prop :=
  (∀ session, duo.session setup ≠ some (.paired session)) ∧
  (∀ initiator, duo.session setup ≠ some (.unpaired (.initiator initiator))) ∧
  ∀ ourDeviceId peerDeviceId peerFingerprint,
    duo.phone.state ≠ .paired ourDeviceId peerDeviceId peerFingerprint

/-- Once everything is delivered, an acceptance has paired both sides with each other's
fingerprint, and a rejection has left neither side paired. -/
theorem desktop_initiated_agrees {initiator : Initiator} {ephemeral : EphemeralKeyPair}
    {final : Duo σ} (hephemeral : initiator.ephemeral = some ephemeral)
    (honest : Honest setup initiator.identity ephemeral.publicKey)
    (hrun : DesktopInitiatedRun setup initiator final decided) :
    (decided = some true → Agreement setup initiator.identity.fingerprint final) ∧
      (decided = some false → NoPairing setup final) := by
  have hstage := stage_of_run hephemeral honest hrun
  have hup : final.upPairing = [] := by simp [Duo.upPairing, hrun.delivered.1]
  have hdown : final.downPairing setup = [] := by simp [Duo.downPairing, hrun.delivered.2]
  cases hstage with
  | requested | showing => exact ⟨by simp, by simp⟩
  | accepted challenge confirm hstate hidentity hchallenge hconfirm hup' => simp [hup] at hup'
  | answered complete hstate hidentity hcomplete hup' hdown' => simp [hdown] at hdown'
  | completing complete hstate hcomplete hup' => simp [hup] at hup'
  | paired session hstate hfingerprint hup' hdown' hsession =>
    obtain ⟨peerDeviceId, hstate⟩ := hstate
    exact ⟨fun _ ↦ ⟨⟨session, hsession, hfingerprint⟩, _, peerDeviceId, hstate⟩, by simp⟩
  | rejected challenge confirm hstate hchallenge hconfirm hup' => simp [hup] at hup'
  | dropped hstate hup' hdown' hsession =>
    obtain ⟨reason, hstate⟩ := hstate
    refine ⟨by simp, fun _ ↦ ⟨fun session ↦ ?_, fun init ↦ ?_, by simp [hstate]⟩⟩
    · rcases hsession with h | ⟨responder, h⟩ <;> simp [h]
    · rcases hsession with h | ⟨responder, h⟩ <;> simp [h]

/-! ## Both decisions in a run -/

/-- The phone is connected and has said hello; nothing is in flight. -/
theorem sampleStart_connected : Connected sampleSetup sampleStart where
  registered := rfl
  quiet := not_false
  loaded := by
    rintro own ⟨⟩
    rfl
  up := rfl
  down := rfl

theorem sampleHonest : Honest sampleSetup sampleIdentity sampleKeyPair.publicKey where
  phone := ⟨by decide +kernel, _, rfl⟩
  desktop := ⟨by decide +kernel, _, rfl⟩
  marker := rfl
  accepts := ⟨_, rfl, fun _ ↦ ⟨_, rfl, rfl⟩⟩

/-- The Initiator that the sample draws give. -/
def sampleInitiator : Initiator where
  identity := sampleIdentity
  peerDeviceId := ⟨1⟩
  peerName := "center"
  ephemeral := some sampleKeyPair
  peerEphemeralPub := none
  challengeCode := none

/-- The desktop has queued its request. -/
def sampleQueued : Duo Unit :=
  { sampleStart with center := { sampleStart.center with
      registry := sampleStart.center.registry.send 0 (Net.sampleDraws.envelope .devicePairRequest ⟨7⟩
        (PairRequest.toValue { ephemeralPubkey := sampleKeyPair.publicKey.toBase64 })) } }

theorem sampleQueued_requested :
    Requested sampleSetup Net.sampleDraws sampleInitiator sampleStart sampleQueued where
  start := rfl
  queue := ⟨_, _, rfl, rfl, rfl⟩

/-- The phone receives the request before the Initiator is stored. -/
def sampleEarly : List DuoLabel := [.deliverDown Android.sampleDraws]

/-- The user accepts before the challenge is delivered. -/
def sampleAccepting : List DuoLabel :=
  [.userAccepts Android.sampleDraws, .deliverUp sampleArrival, .deliverUp sampleArrival,
    .deliverDown Android.sampleDraws, .deliverUp sampleArrival]

/-- The user rejects after the challenge is delivered. -/
def sampleRejecting : List DuoLabel :=
  [.deliverUp sampleArrival, .userRejects Android.sampleDraws "no", .deliverUp sampleArrival]

/-- Where the sample ends, with the decision, after these labels. -/
def sampleEnd (late : List DuoLabel) : Option (Duo Unit × Option Bool) :=
  (Run.exec (decidedStep sampleSetup) (sampleQueued, none) sampleEarly).bind fun (stored, heard) ↦
    Run.exec (decidedStep sampleSetup) (stored.storeInitiator sampleSetup sampleInitiator, heard) late

/-- These labels take the sample to `decided` in time, and deliver everything. -/
def SampleDecides (late : List DuoLabel) (decided : Option Bool) : Prop :=
  ∃ stored ∈ Run.exec (decidedStep sampleSetup) (sampleQueued, none) sampleEarly,
    ∃ final ∈ Run.exec (decidedStep sampleSetup)
      (stored.1.storeInitiator sampleSetup sampleInitiator, stored.2) late,
    Run.Throughout (decidedStep sampleSetup) (fun s label ↦ InTime s.1 label)
      (stored.1.storeInitiator sampleSetup sampleInitiator, stored.2) late ∧
    final.2 = decided ∧ final.1.up = [] ∧ final.1.down sampleSetup = []

instance (late : List DuoLabel) (decided : Option Bool) : Decidable (SampleDecides late decided) :=
  inferInstanceAs (Decidable (∃ _, _))

theorem SampleDecides.run {late : List DuoLabel} {decided : Option Bool}
    (h : SampleDecides late decided) : ∃ final, sampleEnd late = some (final, decided) ∧
      DesktopInitiatedRun sampleSetup sampleInitiator final decided := by
  obtain ⟨stored, hstored, ⟨final, _⟩, hfinal, htime, rfl, hup, hdown⟩ := h
  refine ⟨final, ?_, ⟨_, _, _, sampleEarly, late, stored.1, stored.2, sampleStart_connected,
    sampleQueued_requested, hstored, ?_, hfinal, htime⟩, hup, hdown⟩
  · rw [sampleEnd, Option.mem_def.mp hstored]
    exact hfinal
  · exact ⟨⟨trivial, trivial⟩, fun _ _ ↦ trivial⟩

theorem sample_accepting : SampleDecides sampleAccepting (some true) := by decide +kernel

theorem sample_rejecting : SampleDecides sampleRejecting (some false) := by decide +kernel

/-- Both decisions are reached by a run, with the outcome that fits them. -/
theorem sample_decisions :
    (∃ final, sampleEnd sampleAccepting = some (final, some true) ∧
      Agreement sampleSetup sampleIdentity.fingerprint final) ∧
    ∃ final, sampleEnd sampleRejecting = some (final, some false) ∧
      NoPairing sampleSetup final := by
  obtain ⟨accepted, haccepted, haccepting⟩ := sample_accepting.run
  obtain ⟨rejected, hrejected, hrejecting⟩ := sample_rejecting.run
  exact ⟨⟨accepted, haccepted, (desktop_initiated_agrees rfl sampleHonest haccepting).1 rfl⟩,
    ⟨rejected, hrejected, (desktop_initiated_agrees rfl sampleHonest hrejecting).2 rfl⟩⟩

end PhoneBridge.Pairing
