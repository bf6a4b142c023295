import PhoneBridge.Android.HeartbeatController
import PhoneBridge.Android.PairingConsent
import PhoneBridge.Android.Producers
import PhoneBridge.Interop.PayloadValidity
import PhoneBridge.MessageCenter.Builders

/-!
# Every message against the schema

Each place where one of the two sides builds an envelope, and when the JSON of that envelope is valid
under the protocol schema. What breaks the rule for some inputs is an id, a name, a number or a text
out of range; what breaks it for all of them is a payload that fits several schemas, the four-digit
code, a null in the place of an absent value and the phone's `package_name`.
-/

namespace PhoneBridge.Interop

open Library JsonSchema Proto Net Crypto MessageCenter

/-- The text is the fingerprint of some certificate. -/
def IsFingerprint (fingerprint : String) : Prop := ∃ digest, fingerprint = certFingerprint digest

/-- A text whose length is between two bounds. -/
def LengthWithin (low high : Nat) (s : String) : Prop := low ≤ s.length ∧ s.length ≤ high

/-! ## The Rust side -/

/-- What the dispatcher's reply depends on: there is none to a heartbeat, a challenge is accepted, and
an accepted confirmation is answered with a proper certificate. -/
structure ReplyConforms (draws : Net.Draws) (env : Proto.Envelope)
    (session : Option DeviceSession) : Prop where
  heartbeat : env.messageType ≠ .deviceHeartbeat
  challenge : env.messageType = .devicePairChallenge →
    ∀ init, session = some (.unpaired (.initiator init)) →
      ∃ next, init.onChallenge draws env = .ok next
  confirm : env.messageType = .devicePairConfirm →
    ∀ init, session = some (.unpaired (.initiator init)) →
      (env.parsePayload PairConfirm.parse).toOption = some { accepted := true } →
        0 ≤ draws.now.toInt ∧ IsFingerprint init.identity.fingerprint

/-- What the command that a display's action sends depends on: the two commands about calls have no
valid form. -/
structure ActionConforms (draws : Net.Draws) (action : DisplayAction) : Prop where
  smsReply : action.kind = "sms.reply" →
    ∀ recipient ∈ action.recipient.filter (· ≠ ""), ∀ body ∈ action.body.filter (· ≠ ""),
      0 ≤ draws.now.toInt ∧ recipient.length ≤ 32 ∧ body.length ≤ 8192
  dismiss : action.kind = "notification.dismiss" → 0 ≤ draws.now.toInt
  callAnswer : action.kind ≠ "call.answer"
  callEnd : action.kind ≠ "call.end"

/-- The inputs on which a builder of the Rust side builds nothing or a valid envelope. -/
def RustConforms : RustBuilder → Prop
  | .initiatorRequest init draws _ => init.ephemeral.isSome → 0 ≤ draws.now.toInt
  | .initiatorAccept init _ _ => init.peerEphemeralPub = none
  | .initiatorReject _ _ _ _ => False
  | .initiatorComplete init draws _ =>
    0 ≤ draws.now.toInt ∧ IsFingerprint init.identity.fingerprint
  | .responderChallenge responder draws _ =>
    responder.ephemeralPub.isSome → responder.expiresAt.isSome → ∀ code ∈ responder.code,
      0 ≤ draws.now.toInt ∧ IsSixDigits code
  | .responderConfirm responder draws _ _ => responder.code.isSome → 0 ≤ draws.now.toInt
  | .responderComplete responder draws _ => responder.accepted = some true →
      0 ≤ draws.now.toInt ∧ IsFingerprint responder.identity.fingerprint
  | .hello draws _ name _ port => 0 ≤ draws.now.toInt ∧ LengthWithin 1 64 name ∧ port ≠ 0
  | .cliHello draws _ name _ => 0 ≤ draws.now.toInt ∧ LengthWithin 1 64 name
  | .desktopHello ctx stamp => 0 ≤ stamp.now.toInt ∧ LengthWithin 1 64 ctx.ourName ∧
      ∀ port ∈ ctx.ourListenPort, port ≠ 0
  | .dispatcherReply _ draws env sessions =>
    ReplyConforms draws env (sessions.pairing.get env.deviceId)
  | .incomingConfirm _ draws _ => 0 ≤ draws.now.toInt
  | .dismissal _ draws row => 0 ≤ draws.now.toInt ∧ LengthWithin 1 128 row
  | .sendSms _ draws _ req =>
    0 ≤ draws.now.toInt ∧ LengthWithin 1 32 req.recipient ∧ LengthWithin 1 8192 req.body
  | .dial _ draws number => 0 ≤ draws.now.toInt ∧ LengthWithin 1 32 number
  | .displayAction _ draws action => ActionConforms draws action

section Replies

variable {ctx : WsContext} {draws : Net.Draws} {env : Proto.Envelope}
  {session : Option DeviceSession}

/-- The dispatcher's reply is valid exactly under its condition. -/
theorem reply_valid_iff :
    (∀ reply ∈ DeviceSession.reply ctx draws env session, Valid reply.toJson) ↔
      ReplyConforms draws env session := by
  constructor
  · intro h
    constructor
    · intro htype
      apply not_valid_empty draws.freshId ctx.ourDeviceId draws.now .deviceHeartbeat
      apply h
      simp [DeviceSession.reply, htype]
      rfl
    · intro htype init hsession
      cases hchallenge : init.onChallenge draws env with
      | ok next => exact ⟨next, rfl⟩
      | error e =>
        exfalso
        apply not_valid_pairReject draws.freshId ctx.ourDeviceId draws.now
          (e.message ctx.serdeMessage)
        apply h
        simp [DeviceSession.reply, htype, hsession, hchallenge]
        rfl
    · intro htype init hsession haccepted
      apply (valid_pairComplete draws.freshId ctx.ourDeviceId draws.now init.identity.certPem
        init.identity.fingerprint).mp
      apply h
      simp only [DeviceSession.reply, htype, hsession, haccepted]
      rfl
  · intro h reply hreply
    unfold DeviceSession.reply at hreply
    split at hreply
    · next htype => exact absurd htype h.heartbeat
    · next init htype =>
      obtain ⟨next, hnext⟩ := h.challenge htype init rfl
      simp [hnext] at hreply
    · next init htype =>
      split at hreply
      · next haccepted =>
        cases hreply
        apply (valid_pairComplete draws.freshId ctx.ourDeviceId draws.now init.identity.certPem
          init.identity.fingerprint).mpr
        exact h.confirm htype init rfl haccepted
      · cases hreply
    · cases hreply

end Replies

section Actions

variable {ctx : WsContext} {draws : Net.Draws} {action : DisplayAction}

theorem length_of_mem_filter {text : Option String} {s : String} (h : s ∈ text.filter (· ≠ "")) :
    1 ≤ s.length := by
  have hne : s ≠ "" := by simpa using (Option.filter_eq_some_iff.mp h).2
  rw [Nat.one_le_iff_ne_zero, ne_eq, String.length_eq_zero_iff]
  exact hne

theorem length_toText (id : Uuid) : id.toText.length = 36 := by
  have hsum : [8, 4, 4, 4].sum ≤ id.simpleDigits.length := by
    rw [Uuid.simpleDigits, Hex.length_digits]
    decide
  rw [← String.length_toList, Uuid.toText, String.toList_ofList, Uuid.length_hyphenate hsum,
    Uuid.simpleDigits, Hex.length_digits]
  rfl

/-- The command of an action is valid exactly under its condition. -/
theorem action_valid_iff :
    (∀ env ∈ displayEnvelope ctx draws action, Valid env.toJson) ↔ ActionConforms draws action := by
  constructor
  · intro h
    constructor
    · intro hkind recipient hrecipient body hbody
      have hvalid := (valid_smsSendRequest draws.freshId ctx.ourDeviceId draws.now recipient body
        none).mp (by
          apply h
          simp only [displayEnvelope, actionRequest, hkind, Option.mem_def.mp hrecipient,
            Option.mem_def.mp hbody]
          rfl)
      exact ⟨hvalid.1, hvalid.2.1.2, hvalid.2.2.2⟩
    · intro hkind
      have hvalid := (valid_notificationDismissed draws.freshId ctx.ourDeviceId draws.now
        action.envelopeId.toText).mp (by
          apply h
          simp only [displayEnvelope, actionRequest, hkind]
          rfl)
      exact hvalid.1
    · intro hkind
      apply not_valid_empty draws.freshId ctx.ourDeviceId draws.now .callAnswerRequest
      apply h
      simp only [displayEnvelope, actionRequest, hkind]
      rfl
    · intro hkind
      apply not_valid_empty draws.freshId ctx.ourDeviceId draws.now .callEndRequest
      apply h
      simp only [displayEnvelope, actionRequest, hkind]
      rfl
  · intro h env henv
    unfold displayEnvelope actionRequest at henv
    split at henv
    · next hkind =>
      obtain ⟨request, hrequest, rfl⟩ := Option.map_eq_some_iff.mp henv
      obtain ⟨recipient, hrecipient, hreply⟩ := Option.bind_eq_some_iff.mp hrequest
      obtain ⟨body, hbody, rfl⟩ := Option.map_eq_some_iff.mp hreply
      have hbounds := h.smsReply hkind recipient hrecipient body hbody
      apply (valid_smsSendRequest draws.freshId ctx.ourDeviceId draws.now recipient body none).mpr
      exact ⟨hbounds.1, ⟨length_of_mem_filter hrecipient, hbounds.2.1⟩,
        length_of_mem_filter hbody, hbounds.2.2⟩
    · next hkind =>
      cases henv
      apply (valid_notificationDismissed draws.freshId ctx.ourDeviceId draws.now
        action.envelopeId.toText).mpr
      rw [length_toText]
      exact ⟨h.dismiss hkind, by omega, by omega⟩
    · next hkind => exact absurd hkind h.callAnswer
    · next hkind => exact absurd hkind h.callEnd
    · cases henv

end Actions

theorem valid_some_iff {env : Proto.Envelope} :
    (∀ emitted ∈ some env, Valid emitted.toJson) ↔ Valid env.toJson := by
  simp only [Option.mem_some_iff, forall_eq']

section Sessions

variable {init : Initiator} {responder : Responder} {draws : Net.Draws} {ourDeviceId : Uuid}

theorem requestEnvelope_valid_iff :
    (∀ env ∈ (init.buildRequestEnvelope draws ourDeviceId).toOption, Valid env.toJson) ↔
      (init.ephemeral.isSome → 0 ≤ draws.now.toInt) := by
  cases hephemeral : init.ephemeral with
  | none => simp [Initiator.buildRequestEnvelope, hephemeral, Except.toOption]
  | some ephemeral =>
    simp only [Initiator.buildRequestEnvelope, hephemeral, Except.toOption, valid_some_iff,
      Option.isSome_some, forall_const]
    exact valid_pairRequest draws.freshId ourDeviceId draws.now ephemeral.publicKey.toBase64

theorem acceptEnvelope_valid_iff :
    (∀ env ∈ (init.buildAcceptEnvelope draws ourDeviceId).toOption, Valid env.toJson) ↔
      init.peerEphemeralPub = none := by
  cases hpub : init.peerEphemeralPub with
  | none => simp [Initiator.buildAcceptEnvelope, hpub, Except.toOption]
  | some peerPub =>
    simp only [Initiator.buildAcceptEnvelope, hpub, Option.isNone_some, Bool.false_eq_true,
      reduceIte, Except.toOption, valid_some_iff, reduceCtorEq, iff_false]
    exact not_valid_empty draws.freshId ourDeviceId draws.now .devicePairAccept

theorem challengeEnvelope_valid_iff :
    (∀ env ∈ (responder.buildChallengeEnvelope draws ourDeviceId).toOption, Valid env.toJson) ↔
      (responder.ephemeralPub.isSome → responder.expiresAt.isSome → ∀ code ∈ responder.code,
        0 ≤ draws.now.toInt ∧ IsSixDigits code) := by
  cases hpub : responder.ephemeralPub with
  | none => simp [Responder.buildChallengeEnvelope, hpub, Except.toOption]
  | some ephemeralPub =>
    cases hcode : responder.code with
    | none => simp [Responder.buildChallengeEnvelope, hpub, hcode, Except.toOption]
    | some code =>
      cases hexpires : responder.expiresAt with
      | none => simp [Responder.buildChallengeEnvelope, hpub, hcode, hexpires, Except.toOption]
      | some expiresAt =>
        simp only [Responder.buildChallengeEnvelope, hpub, hcode, hexpires, Except.toOption,
          Option.isSome_some, forall_const, Option.mem_some_iff, forall_eq']
        exact valid_pairChallenge draws.freshId ourDeviceId draws.now ephemeralPub.toBase64 code
          expiresAt

theorem confirmEnvelope_valid_iff {accepted : Bool} :
    (∀ env ∈ (responder.buildConfirmEnvelope draws ourDeviceId accepted).toOption.map Prod.fst,
        Valid env.toJson) ↔
      (responder.code.isSome → 0 ≤ draws.now.toInt) := by
  cases hcode : responder.code with
  | none => simp [Responder.buildConfirmEnvelope, hcode, Except.toOption]
  | some code =>
    simp only [Responder.buildConfirmEnvelope, hcode, Option.isNone_some, Bool.false_eq_true,
      reduceIte, Except.toOption, Option.map_some, valid_some_iff, Option.isSome_some, forall_const]
    exact valid_pairConfirm draws.freshId ourDeviceId draws.now accepted

theorem completeEnvelope_valid_iff :
    (∀ env ∈ (responder.buildCompleteEnvelope draws ourDeviceId).toOption, Valid env.toJson) ↔
      (responder.accepted = some true →
        0 ≤ draws.now.toInt ∧ IsFingerprint responder.identity.fingerprint) := by
  by_cases haccepted : responder.accepted = some true
  · simp only [Responder.buildCompleteEnvelope, haccepted, Option.getD_some, reduceIte,
      Except.toOption, valid_some_iff, forall_const]
    exact valid_pairComplete draws.freshId ourDeviceId draws.now responder.identity.certPem
      responder.identity.fingerprint
  · have hgetD : responder.accepted.getD false = false := by
      cases hoption : responder.accepted with
      | none => rfl
      | some accepted => simpa [hoption] using haccepted
    simp [Responder.buildCompleteEnvelope, hgetD, haccepted, Except.toOption]

end Sessions

/-- What a builder of the Rust side emits is valid exactly under the builder's condition. -/
theorem rust_valid_iff (builder : RustBuilder) :
    (∀ env ∈ builder.envelope, Valid env.toJson) ↔ RustConforms builder := by
  cases builder with
  | initiatorRequest init draws ourDeviceId => exact requestEnvelope_valid_iff
  | initiatorAccept init draws ourDeviceId => exact acceptEnvelope_valid_iff
  | initiatorReject init draws ourDeviceId reason =>
    have hinvalid := not_valid_pairReject draws.freshId ourDeviceId draws.now reason
    exact iff_of_false (fun h ↦ hinvalid (h _ rfl)) id
  | initiatorComplete init draws ourDeviceId =>
    apply valid_some_iff.trans
    exact valid_pairComplete draws.freshId ourDeviceId draws.now init.identity.certPem
      init.identity.fingerprint
  | responderChallenge responder draws ourDeviceId => exact challengeEnvelope_valid_iff
  | responderConfirm responder draws ourDeviceId accepted => exact confirmEnvelope_valid_iff
  | responderComplete responder draws ourDeviceId => exact completeEnvelope_valid_iff
  | hello draws ourDeviceId name pubkeyB64 port =>
    have hvalid := valid_hello draws.freshId ourDeviceId draws.now name pubkeyB64 .android (some port)
    simp only [Option.mem_some_iff, forall_eq'] at hvalid
    exact valid_some_iff.trans hvalid
  | cliHello draws deviceId name publicKeyB64 =>
    have hvalid := valid_hello draws.freshId deviceId draws.now name publicKeyB64 .android none
    simp only [Option.not_mem_none, false_implies, implies_true, and_true] at hvalid
    exact valid_some_iff.trans hvalid
  | desktopHello ctx stamp =>
    apply valid_some_iff.trans
    exact valid_hello stamp.freshId ctx.ourDeviceId stamp.now ctx.ourName ctx.ourPublicKeyB64
      .desktop ctx.ourListenPort
  | dispatcherReply ctx draws env sessions =>
    simp only [RustBuilder.envelope, RustConforms, dispatch_eq]
    exact reply_valid_iff
  | incomingConfirm ctx draws accepted =>
    apply valid_some_iff.trans
    exact valid_pairConfirm draws.freshId ctx.ourDeviceId draws.now accepted
  | dismissal ctx draws row =>
    apply valid_some_iff.trans
    exact valid_notificationDismissed draws.freshId ctx.ourDeviceId draws.now row
  | sendSms ctx draws requestId req =>
    apply valid_some_iff.trans
    exact valid_smsSendRequest requestId ctx.ourDeviceId draws.now req.recipient req.body
      req.subscriptionId
  | dial ctx draws number =>
    apply valid_some_iff.trans
    exact valid_callDialRequest draws.freshId ctx.ourDeviceId draws.now number
  | displayAction ctx draws action => exact action_valid_iff

/-- The responder derives four digits, so no challenge of a responder that has read a request
conforms. -/
theorem challenge_never_conforms {primitives : Primitives} {responder next : Responder}
    {draws sending : Net.Draws} {env : Proto.Envelope} {ourDeviceId : Uuid}
    (h : responder.onRequest primitives draws env = .ok next) :
    ¬ RustConforms (.responderChallenge next sending ourDeviceId) := by
  simp only [Responder.onRequest, bind_eq_ok, mapError_eq_ok, ensure_eq_ok] at h
  obtain ⟨-, -, req, -, peerPub, -, ephemeral, -, shared, -, hnext⟩ := h
  cases hnext
  intro hconforms
  have hsix := (hconforms rfl rfl _ rfl).2
  exact not_isSixDigits (isFourDigits_derivePairingCode primitives.hmacSha256 shared) hsix

/-! ## The phone -/

section Phone

open Android Kotlinx

/-- A builder of the phone with what it reads. -/
inductive PhoneBuilder
  | reply (jce : Jce) (lexer : Lexer) (store : IdentityStore) (draws : Android.Draws)
    (env : Android.Envelope) (m : PairingMachine)
  | userAccepts (store : IdentityStore) (draws : Android.Draws) (m : PairingMachine)
  | userRejects (store : IdentityStore) (draws : Android.Draws) (reason : String)
    (m : PairingMachine)
  | initiate (store : IdentityStore) (draws : Android.Draws) (m : PairingMachine)
  | hello (platform : Platform) (draws : Android.Draws) (service : BridgeService)
  | heartbeat (store : IdentityStore) (draws : Android.Draws)
  | notificationPosted (store : IdentityStore) (freshId : Uuid) (appLabelFor : String → String)
    (sbn : StatusBarNotification)
  | notificationRemoved (store : IdentityStore) (draws : Android.Draws)
    (sbn : StatusBarNotification)
  | smsReceived (messageId freshId : Uuid) (parts : List (Option SmsMessage)) (ourDeviceId : String)
  | callState (store : IdentityStore) (draws : Android.Draws) (state : Int32)
    (phoneNumber : Option String)

/-- The envelope, unless there is nothing to send. -/
def PhoneBuilder.envelope : PhoneBuilder → Option Android.Envelope
  | reply jce lexer store draws env m => (m.handleIncoming jce lexer store draws env).1
  | userAccepts store draws m => (m.userAccepts store draws).1
  | userRejects store draws reason m => (m.userRejects store draws reason).1
  | initiate store draws m => (m.initiate store draws).1
  | hello platform draws service => some (service.hello platform draws)
  | heartbeat store draws => some (HeartbeatController.heartbeat store draws)
  | notificationPosted store freshId appLabelFor sbn =>
    NotificationRelayService.onNotificationPosted store freshId appLabelFor sbn
  | notificationRemoved store draws sbn =>
    some (NotificationRelayService.onNotificationRemoved store draws sbn)
  | smsReceived messageId freshId parts ourDeviceId =>
    buildSmsReceivedEnvelope messageId freshId parts ourDeviceId
  | callState store draws state phoneNumber =>
    some (CallController.sendState store draws state phoneNumber)

/-- The clock is past the epoch, and the stored device id is the text of a UUID. -/
def Stamped (store : IdentityStore) (draws : Android.Draws) : Prop :=
  0 ≤ draws.now.toInt ∧ IsUuid store.deviceId

/-- A request that the machine answers with a challenge. -/
def IsAnswerable (jce : Jce) (draws : Android.Draws) (env : Android.Envelope) : Prop :=
  ∃ req peerPub shared, PairRequestPayload.decode env.payload = .ok req ∧
    Ecdh.publicKeyFromBase64 jce.toKeyReader req.ephemeralPubkey = .ok peerPub ∧
    agree jce draws.keyPair.secret peerPub = .ok shared

/-- The certificate that the machine would send is in order. -/
def Certified (store : IdentityStore) (draws : Android.Draws) (m : PairingMachine) : Prop :=
  ∀ identity ∈ m.longTerm, Stamped store draws ∧ IsFingerprint identity.fingerprint

/-- What the pairing machine's answer depends on: there is none to a request, and the certificate
that answers a confirmation or a certificate is in order. -/
structure AnswerConforms (jce : Jce) (lexer : Lexer) (store : IdentityStore)
    (draws : Android.Draws) (env : Android.Envelope) (m : PairingMachine) : Prop where
  request : env.type = Android.MessageType.devicePairRequest → ¬ IsAnswerable jce draws env
  accept : env.type = Android.MessageType.devicePairAccept → Stamped store draws
  confirm : env.type = Android.MessageType.devicePairConfirm →
    (∃ startedAtMs, m.state = .initiating startedAtMs) →
      PairConfirmPayload.decode lexer env.payload = .ok { accepted := true } →
        Certified store draws m
  complete : IsReadableComplete env → Certified store draws m

/-- The inputs on which a builder of the phone builds nothing or a valid envelope. -/
def PhoneConforms : PhoneBuilder → Prop
  | .reply jce lexer store draws env m => AnswerConforms jce lexer store draws env m
  | .userAccepts store draws m => ∀ code expiresAtMs peerDeviceId peerKey,
      m.state = .showingCode code expiresAtMs peerDeviceId peerKey → draws.now ≤ expiresAtMs →
        Stamped store draws
  | .userRejects store draws _ m => ∀ code expiresAtMs peerDeviceId peerKey,
      m.state = .showingCode code expiresAtMs peerDeviceId peerKey → Stamped store draws
  | .initiate store draws m => m.state = .idle → Stamped store draws
  | .hello _ _ _ => False
  | .heartbeat _ _ => False
  | .notificationPosted _ _ _ sbn => sbn.notification = none
  | .notificationRemoved store draws sbn => Stamped store draws ∧ LengthWithin 1 128 sbn.key
  | .smsReceived _ _ parts _ =>
    ∀ first ∈ (parts.filterMap id).head?, first.displayOriginatingAddress = none
  | .callState _ _ _ _ => False

section Answers

variable {jce : Jce} {lexer : Lexer} {store : IdentityStore} {draws : Android.Draws}
  {env : Android.Envelope} {m : PairingMachine}

theorem valid_phone_some_iff {env : Android.Envelope} :
    (∀ emitted ∈ some env, Valid emitted.encode) ↔ Valid env.encode := by
  simp only [Option.mem_some_iff, forall_eq']

/-- Nothing is answered to a request, or a challenge whose code is too short. -/
theorem request_valid_iff :
    (∀ answer ∈ (m.onRequest jce store draws env).1, Valid answer.encode) ↔
      ¬ IsAnswerable jce draws env := by
  constructor
  · rintro h ⟨req, peerPub, shared, hreq, hpeer, hshared⟩
    have hvalid := (valid_phone_pairChallenge draws.freshId store.deviceId draws.now
      draws.keyPair.point.toBase64 (derivePairingCode jce.hmacSha256 shared)
      (draws.now + 30000)).mp (by
        apply h
        simp only [PairingMachine.onRequest, hreq, hpeer, hshared]
        rfl)
    exact not_isSixDigits (isFourDigits_derivePairingCode jce.hmacSha256 shared) hvalid.2
  · intro h answer hanswer
    unfold PairingMachine.onRequest at hanswer
    split at hanswer
    · cases hanswer
    · next req hreq =>
      split at hanswer
      · cases hanswer
      · next peerPub hpeer =>
        dsimp only at hanswer
        split at hanswer
        · cases hanswer
        · next shared hshared => exact absurd ⟨req, peerPub, shared, hreq, hpeer, hshared⟩ h

/-- The machine's own certificate, when it has one. -/
theorem certificate_valid_iff :
    (∀ answer ∈ PairingMachine.makeComplete draws store.deviceId m, Valid answer.encode) ↔
      Certified store draws m := by
  cases hlongTerm : m.longTerm with
  | none => simp [PairingMachine.makeComplete, Certified, hlongTerm]
  | some identity =>
    simp only [PairingMachine.makeComplete, Certified, hlongTerm, Option.map_some,
      Option.mem_some_iff, forall_eq']
    exact valid_phone_pairComplete draws.freshId store.deviceId draws.now identity.pem
      identity.fingerprint

theorem confirm_valid_iff {accepted : Bool} :
    Valid (PairingMachine.makeConfirm draws store.deviceId accepted).encode ↔
      Stamped store draws :=
  valid_phone_pairConfirm draws.freshId store.deviceId draws.now accepted

/-- An accept is always answered with a confirmation. -/
theorem accept_valid_iff :
    Valid (m.onAccept draws env store.deviceId).1.encode ↔ Stamped store draws := by
  unfold PairingMachine.onAccept
  split
  · split
    · exact confirm_valid_iff
    · exact confirm_valid_iff
  · exact confirm_valid_iff

/-- A confirmation is answered with the certificate when it accepts what the phone has initiated. -/
theorem initiatorConfirm_valid_iff :
    (∀ answer ∈ (m.onInitiatorConfirm lexer draws env store.deviceId).1, Valid answer.encode) ↔
      ((∃ startedAtMs, m.state = .initiating startedAtMs) →
        PairConfirmPayload.decode lexer env.payload = .ok { accepted := true } →
          Certified store draws m) := by
  rw [← certificate_valid_iff]
  unfold PairingMachine.onInitiatorConfirm
  split
  · next startedAtMs hstate =>
    have hstarted : ∃ startedAtMs, m.state = .initiating startedAtMs := ⟨startedAtMs, hstate⟩
    cases hconfirm : PairConfirmPayload.decode lexer env.payload with
    | error e => simp
    | ok confirm =>
      obtain ⟨accepted⟩ := confirm
      cases accepted with
      | false => simp
      | true =>
        cases hlongTerm : m.longTerm with
        | none => simp [PairingMachine.makeComplete, hlongTerm]
        | some identity => simp [hstarted]
  · next hstate =>
    apply iff_of_true
    · simp
    · rintro ⟨startedAtMs, hinitiating⟩
      exact absurd hinitiating (hstate startedAtMs)

/-- A readable certificate is answered with the phone's own. -/
theorem complete_valid_iff (htype : env.type = Android.MessageType.devicePairComplete) :
    (∀ answer ∈ (m.onComplete lexer draws env store.deviceId).1, Valid answer.encode) ↔
      (IsReadableComplete env → Certified store draws m) := by
  rw [← certificate_valid_iff]
  by_cases hreadable : IsReadableComplete env
  · obtain ⟨-, payload, hpayload, hmarker, hfingerprint⟩ := id hreadable
    simp only [PairingMachine.onComplete, hpayload, hmarker, hfingerprint, hreadable, forall_const,
      Bool.true_eq_false, reduceIte]
    exact Iff.rfl
  · have hsilent : (m.onComplete lexer draws env store.deviceId).1 = none := by
      unfold PairingMachine.onComplete
      split
      · rfl
      · next payload hpayload =>
        split
        · rfl
        · next hmarker =>
          split
          · rfl
          · next hfingerprint =>
            rw [Bool.not_eq_false] at hmarker hfingerprint
            exact absurd ⟨htype, payload, hpayload, hmarker, hfingerprint⟩ hreadable
    simp [hsilent, hreadable]

/-- What the machine answers is valid exactly under its condition. -/
theorem answer_valid_iff :
    (∀ answer ∈ (m.handleIncoming jce lexer store draws env).1, Valid answer.encode) ↔
      AnswerConforms jce lexer store draws env m := by
  constructor
  · intro h
    constructor
    · intro htype
      rw [PairingMachine.route_request htype] at h
      exact request_valid_iff.mp h
    · intro htype
      rw [PairingMachine.route_accept htype] at h
      exact accept_valid_iff.mp (h _ rfl)
    · intro htype
      rw [PairingMachine.route_confirm htype] at h
      exact initiatorConfirm_valid_iff.mp h
    · intro hreadable
      rw [PairingMachine.route_complete hreadable.1] at h
      exact (complete_valid_iff hreadable.1).mp h hreadable
  · intro h
    unfold PairingMachine.handleIncoming
    split
    · next htype => exact request_valid_iff.mpr (h.request htype)
    split
    · next htype => exact valid_phone_some_iff.mpr (accept_valid_iff.mpr (h.accept htype))
    split
    · simp
    split
    · next htype => exact initiatorConfirm_valid_iff.mpr (h.confirm htype)
    split
    · next htype => exact (complete_valid_iff htype).mpr h.complete
    · simp

/-- The user accepts a code in time. -/
theorem userAccepts_valid_iff :
    (∀ env ∈ (m.userAccepts store draws).1, Valid env.encode) ↔
      ∀ code expiresAtMs peerDeviceId peerKey,
        m.state = .showingCode code expiresAtMs peerDeviceId peerKey →
          draws.now ≤ expiresAtMs → Stamped store draws := by
  unfold PairingMachine.userAccepts
  split
  · next code expiresAtMs peerDeviceId peerKey hstate =>
    split
    · next hexpired =>
      apply iff_of_true
      · simp
      · intro _ otherExpiry _ _ hother hintime
        rw [hstate] at hother
        cases hother
        exact absurd hexpired (Int64.not_lt.mpr hintime)
    · next hintime =>
      rw [valid_phone_some_iff, confirm_valid_iff]
      constructor
      · intro h _ _ _ _ _ _
        exact h
      · intro h
        exact h code expiresAtMs peerDeviceId peerKey hstate (Int64.not_lt.mp hintime)
  · next hstate =>
    apply iff_of_true
    · simp
    · intro _ _ _ _ hother
      exact absurd hother (hstate _ _ _ _)

theorem userRejects_valid_iff {reason : String} :
    (∀ env ∈ (m.userRejects store draws reason).1, Valid env.encode) ↔
      ∀ code expiresAtMs peerDeviceId peerKey,
        m.state = .showingCode code expiresAtMs peerDeviceId peerKey → Stamped store draws := by
  unfold PairingMachine.userRejects
  split
  · next code expiresAtMs peerDeviceId peerKey hstate =>
    rw [valid_phone_some_iff, confirm_valid_iff]
    constructor
    · intro h _ _ _ _ _
      exact h
    · intro h
      exact h code expiresAtMs peerDeviceId peerKey hstate
  · next hstate =>
    apply iff_of_true
    · simp
    · intro _ _ _ _ hother
      exact absurd hother (hstate _ _ _ _)

theorem initiate_valid_iff :
    (∀ env ∈ (m.initiate store draws).1, Valid env.encode) ↔
      (m.state = .idle → Stamped store draws) := by
  unfold PairingMachine.initiate
  split
  · next hstate =>
    simp only [valid_phone_some_iff, hstate, forall_const]
    exact valid_phone_pairRequest draws.freshId store.deviceId draws.now
      draws.keyPair.point.toBase64
  · next hstate => exact iff_of_true (by simp) fun hidle ↦ absurd hidle hstate

end Answers

/-- Only a notification without content is not relayed. -/
theorem notificationPosted_valid_iff {store : IdentityStore} {freshId : Uuid}
    {appLabelFor : String → String} {sbn : StatusBarNotification} :
    (∀ env ∈ NotificationRelayService.onNotificationPosted store freshId appLabelFor sbn,
        Valid env.encode) ↔
      sbn.notification = none := by
  unfold NotificationRelayService.onNotificationPosted
  cases hnotification : sbn.notification with
  | none => simp
  | some n =>
    apply iff_of_false
    · intro h
      exact absurd (h _ rfl)
        (not_valid_phone_notificationReceived freshId store.deviceId sbn.postTime _)
    · simp

/-- Only an SMS without a sender is not relayed. -/
theorem smsReceived_valid_iff {messageId freshId : Uuid} {parts : List (Option SmsMessage)}
    {ourDeviceId : String} :
    (∀ env ∈ buildSmsReceivedEnvelope messageId freshId parts ourDeviceId, Valid env.encode) ↔
      ∀ first ∈ (parts.filterMap id).head?, first.displayOriginatingAddress = none := by
  simp only [buildSmsReceivedEnvelope]
  cases (parts.filterMap id).head? with
  | none => simp
  | some first =>
    cases hsender : first.displayOriginatingAddress with
    | none => simp [hsender]
    | some sender =>
      simp only [Option.bind_some, hsender, Option.map_some, Option.mem_some_iff, forall_eq',
        reduceCtorEq, iff_false]
      exact not_valid_phone_smsReceived freshId ourDeviceId first.timestampMillis rfl

/-- What a builder of the phone emits is valid exactly under the builder's condition. -/
theorem phone_valid_iff (builder : PhoneBuilder) :
    (∀ env ∈ builder.envelope, Valid env.encode) ↔ PhoneConforms builder := by
  cases builder with
  | reply jce lexer store draws env m => exact answer_valid_iff
  | userAccepts store draws m => exact userAccepts_valid_iff
  | userRejects store draws reason m => exact userRejects_valid_iff
  | initiate store draws m => exact initiate_valid_iff
  | hello platform draws service =>
    apply iff_of_false _ id
    intro h
    exact absurd (h _ rfl)
      (not_valid_phone_hello draws.freshId platform.store.deviceId draws.now rfl)
  | heartbeat store draws =>
    have hinvalid := not_valid_phone_heartbeat draws.freshId store.deviceId draws.now
    exact iff_of_false (fun h ↦ hinvalid (h _ rfl)) id
  | notificationPosted store freshId appLabelFor sbn => exact notificationPosted_valid_iff
  | notificationRemoved store draws sbn =>
    apply valid_phone_some_iff.trans
    exact valid_phone_notificationDismissed draws.freshId store.deviceId draws.now sbn.key
  | smsReceived messageId freshId parts ourDeviceId => exact smsReceived_valid_iff
  | callState store draws state phoneNumber =>
    apply iff_of_false _ id
    intro h
    exact absurd (h _ rfl)
      (not_valid_phone_callState draws.freshId store.deviceId draws.now rfl)

end Phone

/-! ## Both sides -/

/-- A builder of either side. -/
inductive Builder
  | rust (builder : RustBuilder)
  | phone (builder : PhoneBuilder)

namespace Builder

/-- The JSON of the envelope, unless there is nothing to send. -/
def json : Builder → Option Json
  | rust builder => builder.envelope.map Proto.Envelope.toJson
  | phone builder => builder.envelope.map Android.Envelope.encode

/-- The inputs on which the builder builds nothing or a valid envelope. -/
def Conforms : Builder → Prop
  | rust builder => RustConforms builder
  | phone builder => PhoneConforms builder

end Builder

/-- A responder that has answered a request with a code of the length that both sides derive. -/
def sampleResponder : Responder where
  identity := sampleIdentity
  peerDeviceId := ⟨1⟩
  ephemeralPub := some sampleKeyPair.publicKey
  code := some "4821"
  expiresAt := some 31000
  accepted := none

/-- Whatever either side emits is valid under the schema exactly when its builder's inputs conform. -/
theorem emitted_valid_iff (builder : Builder) :
    (∀ json ∈ builder.json, Valid json) ↔ builder.Conforms := by
  cases builder with
  | rust builder =>
    rw [Builder.Conforms, ← rust_valid_iff builder]
    simp [Builder.json]
  | phone builder =>
    rw [Builder.Conforms, ← phone_valid_iff builder]
    simp [Builder.json]

/-- The schema asks for six digits, and a challenge carries four. -/
theorem challenge_is_invalid :
    ¬ ∀ builder : Builder, ∀ json ∈ builder.json, Valid json := by
  intro h
  have hchallenge : ∀ env ∈ (RustBuilder.responderChallenge sampleResponder sampleDraws
      ⟨7⟩).envelope, Valid env.toJson := by
    intro env henv
    apply h (.rust (.responderChallenge sampleResponder sampleDraws ⟨7⟩))
    exact Option.mem_map_of_mem _ henv
  have hconforms := (rust_valid_iff _).mp hchallenge
  have hsix := (hconforms rfl rfl "4821" rfl).2.1
  revert hsix
  decide

/-- In every run of the message-center, what waits on a phone's channel was built by some builder,
and is valid exactly when the builder's inputs conform. -/
theorem queued_valid_iff {ctx : WsContext} {dbMessage : Storage.DbError → String}
    {hub next : Hub DeskStore} {labels : List SenderLabel} (h : AllBuilt hub.center.registry)
    (hrun : Run.exec (Sender.step ctx dbMessage) hub labels = some next) {conn : ConnId}
    {env : Proto.Envelope} (henv : env ∈ (next.center.registry.outboxes conn).queue) :
    ∃ builder : RustBuilder, builder.envelope = some env ∧
      (Valid env.toJson ↔ RustConforms builder) := by
  obtain ⟨builder, hbuilder⟩ := Sender.allBuilt_run h hrun conn env henv
  refine ⟨builder, hbuilder, ?_⟩
  rw [← rust_valid_iff, hbuilder, valid_some_iff]

end PhoneBridge.Interop
