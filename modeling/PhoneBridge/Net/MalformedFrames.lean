import PhoneBridge.Net.Connection
import PhoneBridge.Net.ChallengeCheck

/-!
# Frames that break the protocol

The frame loop skips a text that is not the JSON of an envelope. It never looks at the version of an
envelope, and each branch of the dispatcher reads the payload on its own, with a default of its own
where it cannot be read. What such a frame does is compared with doing nothing.
-/

namespace PhoneBridge.Net

open Library Proto Crypto Serde

/-! ## Valid envelopes -/

/-- The value can be decoded. -/
def Readable {α : Type} (decode : Decoder α) (json : Json) : Prop :=
  ∃ value, decode json = .ok value

/-- The payload can be read as what the message type declares. -/
def PayloadReadable (env : Envelope) : Prop :=
  match env.messageType with
  | .deviceHello => Readable DeviceHello.parse env.payload
  | .deviceHeartbeat => Readable DeviceHeartbeat.parse env.payload
  | .deviceInfoUpdate => Readable DeviceInfoUpdate.parse env.payload
  | .devicePairRequest => Readable PairRequest.parse env.payload
  | .devicePairChallenge => Readable PairChallenge.parse env.payload
  | .devicePairConfirm => Readable PairConfirm.parse env.payload
  | .devicePairAccept => Readable PairAccept.parse env.payload
  | .devicePairReject => Readable PairReject.parse env.payload
  | .devicePairComplete => Readable PairComplete.parse env.payload
  | .deviceUnpair => Readable Unpair.parse env.payload
  | .notificationReceived => Readable NotificationReceived.parse env.payload
  | .notificationDismissed => Readable NotificationDismissed.parse env.payload
  | .smsReceived => Readable SmsReceived.parse env.payload
  | .smsSendRequest => Readable SmsSendRequest.parse env.payload
  | .smsSendResult => Readable SmsSendResult.parse env.payload
  | .smsListRequest => Readable SmsListRequest.parse env.payload
  | .smsListResult => Readable SmsListResult.parse env.payload
  | .callState => Readable CallState.parse env.payload
  | .callIncoming => Readable CallIncoming.parse env.payload
  | .callAnswerRequest => Readable CallAnswerRequest.parse env.payload
  | .callEndRequest => Readable CallEndRequest.parse env.payload
  | .callDialRequest => Readable CallDialRequest.parse env.payload
  | .callHistory => Readable CallHistory.parse env.payload

/-- A text frame that is not a valid envelope of version 1. -/
def Frame.BreaksProtocol : Frame → Prop
  | .text json => ∀ env, Envelope.fromJson json = .ok env → env.v ≠ 1 ∨ ¬ PayloadReadable env
  | .invalidText => True
  | .other => False

theorem not_readable {α : Type} {decode : Decoder α} {json : Json} (h : ¬ Readable decode json) :
    (decode json).toOption = none := by
  cases hdecode : decode json with
  | error e => rfl
  | ok value => exact absurd ⟨value, hdecode⟩ h

/-- A payload that cannot be read is not passed to the sink. -/
theorem sinkCall_of_not_readable {env : Envelope} (h : ¬ PayloadReadable env) :
    sinkCall env = none := by
  unfold sinkCall
  unfold PayloadReadable at h
  split
  all_goals
    rename_i htype
    try rw [htype] at h
    first
    | rfl
    | rw [Envelope.parsePayload_eq, not_readable h]
      rfl

/-- An envelope that breaks the protocol. -/
theorem Frame.BreaksProtocol.envelope {frame : Frame} (h : frame.BreaksProtocol) {env : Envelope}
    (henv : frame.envelope = some env) : env.v ≠ 1 ∨ ¬ PayloadReadable env := by
  cases frame with
  | text json =>
    apply h env
    unfold Frame.envelope at henv
    cases hjson : Envelope.fromJson json with
    | error e => simp [hjson, Except.toOption] at henv
    | ok read => simpa [hjson, Except.toOption] using henv
  | invalidText => cases henv
  | other => cases henv

/-! ## Doing nothing -/

variable {σ : Type}

/-- A step of a connection that changes nothing outside it and sends at most a rejection. -/
structure NoEffect (conn : ConnId) (before after : Hub σ) : Prop where
  store : after.center.store = before.center.store
  registry : after.center.registry.inner = before.center.registry.inner
  pairing : after.center.sessions.pairing = before.center.sessions.pairing
  pendingIncoming : after.center.sessions.pendingIncoming = before.center.sessions.pendingIncoming
  others : ∀ other, other ≠ conn →
    after.connections.get other = before.connections.get other ∧
      after.center.registry.outboxes other = before.center.registry.outboxes other
  reply : after.center.registry.outboxes conn = before.center.registry.outboxes conn ∨
    ∃ env, env.messageType = .devicePairReject ∧
      after.center.registry.outboxes conn = (before.center.registry.outboxes conn).send env

/-- The request that the dispatcher parks. -/
def parkedRequest (draws : Draws) (env : Envelope) : PendingIncoming where
  deviceId := env.deviceId
  name := Sessions.pendingName env.deviceId
  receivedAt := draws.now
  peerEphemeralPubB64 := (some ((env.parsePayload PairRequest.parse).toOption.getD {
    ephemeralPubkey := "" }).ephemeralPubkey).filter (· ≠ "")

/-- The branch of the dispatcher and the registration find nothing to do. -/
def IdleBranch (hub : Hub σ) (conn : ConnId) (draws : Draws) (env : Envelope) : Prop :=
  let session := hub.center.sessions.pairing.get env.deviceId
  let closed := (hub.center.registry.outboxes conn).receiving = false
  match env.messageType with
  | .deviceHello => hub.center.registry.inner.get env.deviceId = some conn ∧
      (session = none → ∃ e, draws.identity = .error e)
  | .deviceHeartbeat => closed
  | .devicePairRequest =>
    hub.center.sessions.pendingIncoming.get env.deviceId = some (parkedRequest draws env)
  | .devicePairChallenge => env.v ≠ 1 →
      ∀ init, session = some (.unpaired (.initiator init)) →
        ∀ challenge key, PairChallenge.parse env.payload = .ok challenge →
          IsFourDigits challenge.code → draws.now ≤ challenge.expiresAt →
          PublicKey.fromBase64 challenge.ephemeralPubkey = .ok key →
          init.peerEphemeralPub = some key ∧ init.challengeCode = some challenge.code
  | .devicePairConfirm => ∀ init, session = some (.unpaired (.initiator init)) →
      PairConfirm.parse env.payload = .ok { accepted := true } ∧ closed
  | .devicePairComplete => ∀ unpaired, session ≠ some (.unpaired unpaired)
  | _ => True

/-- The frame finds nothing to do: it is no envelope, or its branch is idle; and a version other
than 1 with a payload that can be read makes the sink write nothing. -/
def FindsNothing (sink : WsSink σ) (hub : Hub σ) (conn : ConnId) (frame : Frame)
    (arrival : Arrival) : Prop :=
  ∀ env, frame.envelope = some env →
    (env.v ≠ 1 → ∀ call, sinkCall env = some call →
      sink arrival.sink call hub.center.store = hub.center.store) ∧
    IdleBranch hub conn arrival.dispatch env

/-! ## When nothing happens -/

/-- A closed channel takes no message. -/
theorem send_of_closed {outbox : Outbox} (h : outbox.receiving = false) (reply : Envelope) :
    outbox.send reply = outbox := by
  simp [Outbox.send, h]

/-- An open channel keeps the messages apart. -/
theorem send_inj {outbox : Outbox} (h : outbox.receiving = true) {reply other : Envelope}
    (hsame : outbox.send reply = outbox.send other) : reply = other := by
  simpa [Outbox.send, h] using hsame

theorem send_ne_self {outbox : Outbox} (h : outbox.receiving = true) (reply : Envelope) :
    outbox.send reply ≠ outbox := by
  intro hsame
  have hqueue := congrArg Outbox.queue hsame
  simp [Outbox.send, h] at hqueue

/-- A reply does no harm when it is a rejection, or cannot be sent. -/
theorem harmless_reply_iff {outbox : Outbox} {reply : Envelope} :
    (outbox.send reply = outbox ∨ ∃ env, env.messageType = .devicePairReject ∧
      outbox.send reply = outbox.send env) ↔
      reply.messageType = .devicePairReject ∨ outbox.receiving = false := by
  cases hreceiving : outbox.receiving with
  | false => simp [send_of_closed hreceiving]
  | true =>
    constructor
    · rintro (hself | ⟨env, htype, hsame⟩)
      · exact absurd hself (send_ne_self hreceiving reply)
      · rw [send_inj hreceiving hsame]
        exact .inl htype
    · rintro (htype | hclosed)
      · exact .inr ⟨reply, htype, rfl⟩
      · cases hclosed

section Parts

variable (center : Center σ) (ctx : WsContext) (sink : WsSink σ) (conn : ConnId) (arrival : Arrival)
  (env : Envelope)

theorem store_unchanged_iff :
    (center.handleEnvelope ctx sink conn arrival env).store = center.store ↔
      ∀ call, sinkCall env = some call → sink arrival.sink call center.store = center.store := by
  rw [Center.store_handleEnvelope]
  cases sinkCall env <;> simp

theorem registry_unchanged_iff :
    (center.handleEnvelope ctx sink conn arrival env).registry.inner = center.registry.inner ↔
      (env.messageType = .deviceHello → center.registry.inner.get env.deviceId = some conn) := by
  rw [Center.inner_handleEnvelope]
  by_cases htype : env.messageType = .deviceHello
  · simp only [htype, reduceIte, true_implies]
    exact KeyMap.set_eq_self
  · simp [htype]

theorem pairing_unchanged_iff :
    (center.handleEnvelope ctx sink conn arrival env).sessions.pairing = center.sessions.pairing ↔
      DeviceSession.after arrival.dispatch env (center.sessions.pairing.get env.deviceId) =
        center.sessions.pairing.get env.deviceId := by
  rw [Center.sessions_handleEnvelope, dispatch_eq]
  exact KeyMap.set_eq_self.trans eq_comm

theorem pendingIncoming_unchanged_iff :
    (center.handleEnvelope ctx sink conn arrival env).sessions.pendingIncoming =
        center.sessions.pendingIncoming ↔
      PendingIncoming.after arrival.dispatch env
          (center.sessions.pendingIncoming.get env.deviceId) =
        center.sessions.pendingIncoming.get env.deviceId := by
  rw [Center.sessions_handleEnvelope, dispatch_eq]
  exact KeyMap.set_eq_self.trans eq_comm

/-- The reply goes to the connection's own channel. -/
theorem outboxes_eq :
    (center.handleEnvelope ctx sink conn arrival env).registry.outboxes =
      match DeviceSession.reply ctx arrival.dispatch env
        (center.sessions.pairing.get env.deviceId) with
      | some reply => (center.registry.send conn reply).outboxes
      | none => center.registry.outboxes := by
  have houtboxes := Center.outboxes_handleEnvelope center ctx sink conn arrival env
  rw [dispatch_eq] at houtboxes
  exact houtboxes

theorem other_outboxes_unchanged {other : ConnId} (hother : other ≠ conn) :
    (center.handleEnvelope ctx sink conn arrival env).registry.outboxes other =
      center.registry.outboxes other := by
  rw [outboxes_eq]
  split
  · simp [DeviceRegistry.send, DeviceRegistry.setOutbox, hother]
  · rfl

/-- No reply, a rejection, or a reply that cannot be sent. -/
theorem only_rejects_iff :
    ((center.handleEnvelope ctx sink conn arrival env).registry.outboxes conn =
        center.registry.outboxes conn ∨
      ∃ reject, reject.messageType = .devicePairReject ∧
        (center.handleEnvelope ctx sink conn arrival env).registry.outboxes conn =
          (center.registry.outboxes conn).send reject) ↔
      ∀ reply, DeviceSession.reply ctx arrival.dispatch env
          (center.sessions.pairing.get env.deviceId) = some reply →
        reply.messageType = .devicePairReject ∨
          (center.registry.outboxes conn).receiving = false := by
  rw [outboxes_eq]
  cases DeviceSession.reply ctx arrival.dispatch env
    (center.sessions.pairing.get env.deviceId) with
  | none => simp
  | some reply =>
    simp only [DeviceRegistry.send, DeviceRegistry.setOutbox, reduceIte, Option.some.injEq,
      forall_eq']
    exact harmless_reply_iff

end Parts

/-- What an envelope changes, part by part. -/
theorem noEffect_iff {ctx : WsContext} {sink : WsSink σ} {hub after : Hub σ} {conn : ConnId}
    {frame : Frame} {arrival : Arrival} {env : Envelope} (henv : frame.envelope = some env)
    (h : hub.frame ctx sink conn frame arrival = some after) :
    NoEffect conn hub after ↔
      (∀ call, sinkCall env = some call →
        sink arrival.sink call hub.center.store = hub.center.store) ∧
      (env.messageType = .deviceHello → hub.center.registry.inner.get env.deviceId = some conn) ∧
      DeviceSession.after arrival.dispatch env (hub.center.sessions.pairing.get env.deviceId) =
        hub.center.sessions.pairing.get env.deviceId ∧
      PendingIncoming.after arrival.dispatch env
          (hub.center.sessions.pendingIncoming.get env.deviceId) =
        hub.center.sessions.pendingIncoming.get env.deviceId ∧
      ∀ reply, DeviceSession.reply ctx arrival.dispatch env
          (hub.center.sessions.pairing.get env.deviceId) = some reply →
        reply.messageType = .devicePairReject ∨
          (hub.center.registry.outboxes conn).receiving = false := by
  obtain ⟨hcenter, hconnections⟩ := Hub.frame_of_envelope henv h
  rw [← store_unchanged_iff hub.center ctx sink conn arrival env,
    ← registry_unchanged_iff hub.center ctx sink conn arrival env,
    ← pairing_unchanged_iff hub.center ctx sink conn arrival env,
    ← pendingIncoming_unchanged_iff hub.center ctx sink conn arrival env,
    ← only_rejects_iff hub.center ctx sink conn arrival env, ← hcenter]
  constructor
  · intro hnone
    exact ⟨hnone.store, hnone.registry, hnone.pairing, hnone.pendingIncoming, hnone.reply⟩
  · rintro ⟨hstore, hregistry, hpairing, hpending, hreply⟩
    apply NoEffect.mk hstore hregistry hpairing hpending ?_ hreply
    intro other hother
    rw [hcenter]
    exact ⟨hconnections other hother, other_outboxes_unchanged _ _ _ _ _ _ hother⟩

/-! ## Branch by branch -/

/-- The envelope leaves the session as it is, and any answer is a rejection or cannot be sent. -/
def Idle (ctx : WsContext) (draws : Draws) (env : Envelope) (closed : Prop)
    (session : Option DeviceSession) : Prop :=
  DeviceSession.after draws env session = session ∧
    ∀ reply, DeviceSession.reply ctx draws env session = some reply →
      reply.messageType = .devicePairReject ∨ closed

section Branches

variable (ctx : WsContext) (draws : Draws) {env : Envelope} (closed : Prop)
  (session : Option DeviceSession)

theorem idle_hello_iff (htype : env.messageType = .deviceHello) :
    Idle ctx draws env closed session ↔ (session = none → ∃ e, draws.identity = .error e) := by
  cases session with
  | none =>
    cases hidentity : draws.identity <;>
      simp [Idle, DeviceSession.after, DeviceSession.reply, htype, Responder.start, hidentity,
        Except.mapError, Except.toOption, bind, Except.bind, pure, Except.pure]
  | some session => simp [Idle, DeviceSession.after, DeviceSession.reply, htype]

theorem idle_heartbeat_iff (htype : env.messageType = .deviceHeartbeat) :
    Idle ctx draws env closed session ↔ closed := by
  simp [Idle, DeviceSession.after, DeviceSession.reply, htype, Draws.envelope, Envelope.new]

/-- Without an Initiator, a challenge and a confirmation do nothing. -/
theorem idle_of_no_initiator {session : Option DeviceSession}
    (htype : env.messageType = .devicePairChallenge ∨ env.messageType = .devicePairConfirm)
    (hnone : ∀ init, session ≠ some (.unpaired (.initiator init))) :
    Idle ctx draws env closed session := by
  obtain ⟨hkeep, hsilent⟩ := ignored_of_no_initiator draws htype hnone ctx
  apply And.intro hkeep
  intro reply hreply
  rw [hsilent] at hreply
  cases hreply

/-- A challenge that is accepted must already be on record; a refused one is answered by a
rejection. -/
theorem idle_challenge_iff (htype : env.messageType = .devicePairChallenge)
    (hbroken : env.v ≠ 1 ∨ ¬ PayloadReadable env) :
    Idle ctx draws env closed session ↔ (env.v ≠ 1 →
      ∀ init, session = some (.unpaired (.initiator init)) →
        ∀ challenge key, PairChallenge.parse env.payload = .ok challenge →
          IsFourDigits challenge.code → draws.now ≤ challenge.expiresAt →
          PublicKey.fromBase64 challenge.ephemeralPubkey = .ok key →
          init.peerEphemeralPub = some key ∧ init.challengeCode = some challenge.code) := by
  by_cases hinit : ∃ init, session = some (.unpaired (.initiator init))
  · obtain ⟨init, rfl⟩ := hinit
    cases hchallenge : init.onChallenge draws env with
    | error e =>
      have hidle : Idle ctx draws env closed (some (.unpaired (.initiator init))) := by
        simp [Idle, DeviceSession.after, DeviceSession.reply, htype, hchallenge,
          Initiator.buildRejectEnvelope, Draws.envelope, Envelope.new]
      apply iff_of_true hidle
      intro _ other hother challenge key hparse hcode hexpiry hkey
      have hok : ∃ next, init.onChallenge draws env = .ok next :=
        ⟨_, Initiator.onChallenge_eq_ok.mpr
          ⟨htype, challenge, key, hparse, hcode, hexpiry, hkey, rfl⟩⟩
      rw [hchallenge] at hok
      obtain ⟨next, hnext⟩ := hok
      cases hnext
    | ok next =>
      obtain ⟨-, challenge, key, hparse, hcode, hexpiry, hkey, rfl⟩ :=
        Initiator.onChallenge_eq_ok.mp hchallenge
      have hversion : env.v ≠ 1 := by
        apply hbroken.resolve_right
        rw [not_not, PayloadReadable, htype]
        exact ⟨challenge, hparse⟩
      have hidle : Idle ctx draws env closed (some (.unpaired (.initiator init))) ↔
          init.peerEphemeralPub = some key ∧ init.challengeCode = some challenge.code := by
        simp only [Idle, DeviceSession.after, DeviceSession.reply, htype, hchallenge,
          Option.some.injEq, DeviceSession.unpaired.injEq, UnpairedSession.initiator.injEq,
          reduceCtorEq, false_implies, implies_true, and_true]
        constructor
        · intro hsame
          rw [← hsame]
          exact ⟨rfl, rfl⟩
        · rintro ⟨hpub, hcoded⟩
          rw [← hpub, ← hcoded]
      rw [hidle]
      constructor
      · intro hrecorded _ other hother challenge' key' hparse' _ _ hkey'
        cases hother
        obtain rfl := Except.ok.inj (hparse.symm.trans hparse')
        obtain rfl := Except.ok.inj (hkey.symm.trans hkey')
        exact hrecorded
      · exact fun hall ↦ hall hversion init rfl challenge key hparse hcode hexpiry hkey
  · have hnone := fun init heq ↦ hinit ⟨init, heq⟩
    apply iff_of_true (idle_of_no_initiator ctx draws closed (.inl htype) hnone)
    exact fun _ init heq ↦ absurd heq (hnone init)

/-- A confirmation drops the Initiator, or sends it on its way. -/
theorem idle_confirm_iff (htype : env.messageType = .devicePairConfirm) :
    Idle ctx draws env closed session ↔ ∀ init, session = some (.unpaired (.initiator init)) →
      PairConfirm.parse env.payload = .ok { accepted := true } ∧ closed := by
  by_cases hinit : ∃ init, session = some (.unpaired (.initiator init))
  · obtain ⟨init, rfl⟩ := hinit
    by_cases hconfirm : PairConfirm.parse env.payload = .ok { accepted := true }
    · simp [Idle, DeviceSession.after, DeviceSession.reply, htype, hconfirm, Except.toOption,
        Initiator.buildCompleteEnvelope, Draws.envelope, Envelope.new]
    · have hrejected : (PairConfirm.parse env.payload).toOption ≠ some { accepted := true } := by
        intro haccepted
        apply hconfirm
        cases hparse : PairConfirm.parse env.payload with
        | error e => simp [hparse, Except.toOption] at haccepted
        | ok confirm => simpa [hparse, Except.toOption] using haccepted
      simp [Idle, DeviceSession.after, DeviceSession.reply, htype, hrejected, hconfirm]
  · have hnone := fun init heq ↦ hinit ⟨init, heq⟩
    apply iff_of_true (idle_of_no_initiator ctx draws closed (.inr htype) hnone)
    exact fun init heq ↦ absurd heq (hnone init)

/-- A certificate ends any pairing that is in flight. -/
theorem idle_complete_iff (htype : env.messageType = .devicePairComplete) :
    Idle ctx draws env closed session ↔ ∀ unpaired, session ≠ some (.unpaired unpaired) := by
  have hpaired : ∀ (outcome : Option PairingOutcome) (unpaired : UnpairedSession),
      outcome.map (Sessions.pairedWith env.deviceId) ≠ some (.unpaired unpaired) := by
    intro outcome unpaired hsame
    obtain ⟨paired, -, hunpaired⟩ := Option.map_eq_some_iff.mp hsame
    cases hunpaired
  cases session with
  | none => simp [Idle, DeviceSession.after, DeviceSession.reply, htype]
  | some session =>
    rcases session with (init | responder) | paired
    · simp [Idle, DeviceSession.after, DeviceSession.reply, htype, hpaired]
    · simp [Idle, DeviceSession.after, DeviceSession.reply, htype, hpaired]
    · simp [Idle, DeviceSession.after, DeviceSession.reply, htype]

end Branches

/-- The branch of an envelope that breaks the protocol does nothing exactly when it is idle. -/
theorem idleBranch_iff (ctx : WsContext) (hub : Hub σ) (conn : ConnId) (draws : Draws)
    {env : Envelope} (hbroken : env.v ≠ 1 ∨ ¬ PayloadReadable env) :
    ((env.messageType = .deviceHello → hub.center.registry.inner.get env.deviceId = some conn) ∧
      Idle ctx draws env ((hub.center.registry.outboxes conn).receiving = false)
        (hub.center.sessions.pairing.get env.deviceId) ∧
      PendingIncoming.after draws env (hub.center.sessions.pendingIncoming.get env.deviceId) =
        hub.center.sessions.pendingIncoming.get env.deviceId) ↔
      IdleBranch hub conn draws env := by
  have hparked : env.messageType ≠ .devicePairRequest →
      PendingIncoming.after draws env (hub.center.sessions.pendingIncoming.get env.deviceId) =
        hub.center.sessions.pendingIncoming.get env.deviceId :=
    fun hne ↦ pending_after_of_ne hne _
  unfold IdleBranch
  split
  next htype =>
    rw [idle_hello_iff _ _ _ _ htype]
    simp [hparked, htype]
  next htype =>
    rw [idle_heartbeat_iff _ _ _ _ htype]
    simp [hparked, htype]
  next htype =>
    simp only [Idle, DeviceSession.after, DeviceSession.reply, PendingIncoming.after, htype,
      reduceCtorEq, false_implies, implies_true, true_and, parkedRequest]
    exact eq_comm
  next htype =>
    rw [idle_challenge_iff _ _ _ _ htype hbroken]
    simp [hparked, htype]
  next htype =>
    rw [idle_confirm_iff _ _ _ _ htype]
    simp [hparked, htype]
  next htype =>
    rw [idle_complete_iff _ _ _ _ htype]
    simp [hparked, htype]
  next hhello hheartbeat hrequest hchallenge hconfirm hcomplete =>
    have hkeep : DeviceSession.after draws env (hub.center.sessions.pairing.get env.deviceId) =
        hub.center.sessions.pairing.get env.deviceId := by
      unfold DeviceSession.after
      split <;> simp_all
    have hsilent : DeviceSession.reply ctx draws env
        (hub.center.sessions.pairing.get env.deviceId) = none := by
      unfold DeviceSession.reply
      split <;> simp_all
    rw [Idle, hkeep, hsilent, hparked hrequest]
    simp only [reduceCtorEq, false_implies, implies_true, and_self, and_true, iff_true]
    exact fun htype ↦ (hhello htype).elim

/-! ## Any state and any frame -/

/-- Handling a frame that breaks the protocol has no effect exactly when it finds nothing to do. -/
theorem broken_frame_has_no_effect_iff {ctx : WsContext} {sink : WsSink σ} {hub after : Hub σ}
    {conn : ConnId} {frame : Frame} {arrival : Arrival} (hbroken : frame.BreaksProtocol)
    (h : hub.frame ctx sink conn frame arrival = some after) :
    NoEffect conn hub after ↔ FindsNothing sink hub conn frame arrival := by
  cases henv : frame.envelope with
  | none =>
    obtain ⟨connection, -, rfl⟩ := Option.map_eq_some_iff.mp h
    simp only [FindsNothing, henv, reduceCtorEq, false_implies, implies_true, iff_true]
    exact NoEffect.mk rfl rfl rfl rfl (fun _ _ ↦ ⟨rfl, rfl⟩) (.inl rfl)
  | some env =>
    have hbreaks := hbroken.envelope henv
    have hsink : (∀ call, sinkCall env = some call →
        sink arrival.sink call hub.center.store = hub.center.store) ↔
        (env.v ≠ 1 → ∀ call, sinkCall env = some call →
          sink arrival.sink call hub.center.store = hub.center.store) := by
      constructor
      · exact fun hall _ ↦ hall
      · intro hversion
        rcases hbreaks with hother | hunreadable
        · exact hversion hother
        · simp [sinkCall_of_not_readable hunreadable]
    simp only [FindsNothing, henv, Option.some.injEq, forall_eq']
    rw [noEffect_iff henv h, ← idleBranch_iff ctx hub conn arrival.dispatch hbreaks]
    apply and_congr hsink
    constructor
    · rintro ⟨hhello, hsession, hparked, hreply⟩
      exact ⟨hhello, ⟨hsession, hreply⟩, hparked⟩
    · rintro ⟨hhello, ⟨hsession, hreply⟩, hparked⟩
      exact ⟨hhello, hsession, hparked, hreply⟩

/-- A pairing with the phone 1 is in flight on the connection 0. -/
def sampleInFlight : Hub Unit where
  center := {
    sessions := Sessions.empty.insert ⟨1⟩ (.unpaired (.initiator sampleInitiator))
    registry := { inner := KeyMap.empty.insert ⟨1⟩ 0, outboxes := fun _ ↦ .new }
    store := () }
  connections := KeyMap.empty.insert 0 { deviceIdHolder := some ⟨1⟩, phase := .serving }

/-- The connection is serving. -/
theorem sampleInFlight_frame (frame : Frame) (arrival : Arrival) : ∃ after,
    sampleInFlight.frame sampleContext (fun _ _ store ↦ store) 0 frame arrival = some after :=
  ⟨_, rfl⟩

/-- An envelope of the phone 1 whose payload is `null`. -/
def sampleNull (messageType : MessageType) : Envelope :=
  sampleDraws.envelope messageType ⟨1⟩ .null

theorem sampleNull_breaks {messageType : MessageType}
    (h : ¬ PayloadReadable (sampleNull messageType)) :
    (Frame.text (sampleNull messageType).toJson).BreaksProtocol := by
  intro env henv
  rw [Envelope.fromJson_toJson] at henv
  cases henv
  exact .inr h

theorem envelope_sampleNull (messageType : MessageType) :
    (Frame.text (sampleNull messageType).toJson).envelope = some (sampleNull messageType) := by
  simp [Frame.envelope, Envelope.fromJson_toJson, Except.toOption]

/-- A challenge that cannot be read is answered by a rejection and leaves the pairing in flight. -/
theorem unreadable_challenge_has_no_effect : ∃ after,
    sampleInFlight.frame sampleContext (fun _ _ store ↦ store) 0
      (.text (sampleNull .devicePairChallenge).toJson)
      { sink := { now := 1000, freshId := .nil }, dispatch := sampleDraws } = some after ∧
    NoEffect 0 sampleInFlight after := by
  obtain ⟨after, hframe⟩ := sampleInFlight_frame (.text (sampleNull .devicePairChallenge).toJson)
    { sink := { now := 1000, freshId := .nil }, dispatch := sampleDraws }
  refine ⟨after, hframe, (broken_frame_has_no_effect_iff (sampleNull_breaks ?_) hframe).mpr ?_⟩
  · rintro ⟨challenge, hparse⟩
    cases hparse
  · intro env henv
    rw [envelope_sampleNull] at henv
    cases henv
    exact ⟨fun hversion ↦ absurd rfl hversion, fun hversion ↦ absurd rfl hversion⟩

/-- A confirmation that cannot be read ends the pairing. -/
theorem unreadable_confirm_ends_pairing : ¬ ∀ (ctx : WsContext) (sink : WsSink Unit)
    (hub after : Hub Unit) (conn : ConnId) (frame : Frame) (arrival : Arrival),
    frame.BreaksProtocol → hub.frame ctx sink conn frame arrival = some after →
    NoEffect conn hub after := by
  intro h
  have hbroken : (Frame.text (sampleNull .devicePairConfirm).toJson).BreaksProtocol := by
    apply sampleNull_breaks
    rintro ⟨confirm, hparse⟩
    cases hparse
  obtain ⟨after, hframe⟩ := sampleInFlight_frame (.text (sampleNull .devicePairConfirm).toJson)
    { sink := { now := 1000, freshId := .nil }, dispatch := sampleDraws }
  have hidle := ((noEffect_iff (envelope_sampleNull _) hframe).mp
    (h _ _ _ _ _ _ _ hbroken hframe)).2.2.1
  cases hidle

end PhoneBridge.Net
