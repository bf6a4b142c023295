import PhoneBridge.Android.PairingMachine
import PhoneBridge.Interop.Payloads
import PhoneBridge.Library.Run
import PhoneBridge.MessageCenter.Rest

/-!
# A desktop and a phone

The two sides of pairing over one connection. The phone's frames travel on a loss-free FIFO channel
to the frame loop of the connection; the connection's outbox is the channel back. The steps are the
deliveries at both ends, what the user does on the phone, what the operator does on the web console,
and any other frame that the phone sends.
-/

namespace PhoneBridge.Pairing

open Library Proto Net MessageCenter Android

/-- Is the message part of the pairing exchange? -/
def isPairing : Proto.MessageType → Bool
  | .devicePairRequest | .devicePairChallenge | .devicePairConfirm | .devicePairAccept
  | .devicePairReject | .devicePairComplete => true
  | _ => false

/-- The pairing message in a frame of the phone, if it is one. -/
def pairingMessage (frame : Json) : Option Proto.Envelope :=
  (Proto.Envelope.fromJson frame).toOption.filter fun env ↦ isPairing env.messageType

/-- What the two sides are given: the desktop's context and sink, the connection, and the phone's
platform, store and device id. -/
structure Setup (σ : Type) where
  ctx : WsContext
  sink : WsSink σ
  conn : ConnId
  deviceId : Uuid
  jce : Jce
  lexer : Kotlinx.Lexer
  store : IdentityStore
  store_deviceId : store.deviceId = deviceId.toText

/-- The desktop, the phone, and the frames on their way to the desktop. -/
structure Duo (σ : Type) where
  center : Center σ
  phone : PairingMachine
  up : List Json

/-- A step of the two sides. -/
inductive DuoLabel
  | deliverUp (arrival : Arrival)
  | deliverDown (draws : Android.Draws)
  | initiate (draws : Android.Draws)
  | userAccepts (draws : Android.Draws)
  | userRejects (draws : Android.Draws) (reason : String)
  | traffic (frame : Json)
  | incomingAccept (draws : Net.Draws)

variable {σ : Type} (setup : Setup σ)

namespace Duo

/-- The messages on their way to the phone. -/
def down (duo : Duo σ) : List Proto.Envelope := (duo.center.registry.outboxes setup.conn).queue

/-- The center after one frame of the phone; a frame that cannot be read is skipped. -/
def receive (center : Center σ) (arrival : Arrival) (frame : Json) : Center σ :=
  match (Frame.text frame).envelope with
  | some env => center.handleEnvelope setup.ctx setup.sink setup.conn arrival env
  | none => center

/-- The center once the writer task has taken a message out of the outbox. -/
def dequeue (center : Center σ) : Center σ :=
  let outbox := center.registry.outboxes setup.conn
  { center with
    registry := center.registry.setOutbox setup.conn { outbox with queue := outbox.queue.tail } }

/-- The phone's reaction to a message: its answer, if any, and its machine after it. -/
def react (phone : PairingMachine) (draws : Android.Draws) (env : Proto.Envelope) :
    Option Android.Envelope × PairingMachine :=
  match Android.Envelope.decode setup.lexer env.toJson with
  | .ok env => phone.handleIncoming setup.jce setup.lexer setup.store draws env
  | .error _ => (none, phone)

/-- The machine after a call, and the message that the call sends. -/
def send (duo : Duo σ) (result : Option Android.Envelope × PairingMachine) : Duo σ :=
  { duo with phone := result.2, up := duo.up ++ result.1.toList.map Android.Envelope.encode }

def step (duo : Duo σ) : DuoLabel → Option (Duo σ)
  | .deliverUp arrival =>
    match duo.up with
    | [] => none
    | frame :: up => some { duo with center := receive setup duo.center arrival frame, up }
  | .deliverDown draws =>
    match duo.down setup with
    | [] => none
    | env :: _ =>
      some ({ duo with center := dequeue setup duo.center }.send (react setup duo.phone draws env))
  | .initiate draws => some (duo.send (duo.phone.initiate setup.store draws))
  | .userAccepts draws => some (duo.send (duo.phone.userAccepts setup.store draws))
  | .userRejects draws reason => some (duo.send (duo.phone.userRejects setup.store draws reason))
  | .traffic frame =>
    if (pairingMessage frame).isSome then none else some { duo with up := duo.up ++ [frame] }
  | .incomingAccept draws =>
    some { duo with
      center := (MessageCenter.incomingAccept setup.ctx draws setup.deviceId duo.center).2 }

/-- All messages in flight have been delivered. -/
def Delivered (duo : Duo σ) : Prop := duo.up = [] ∧ duo.down setup = []

end Duo

/-! ## The pairing part of the state -/

/-- The pairing messages on their way to the desktop. -/
def Duo.upPairing (duo : Duo σ) : List Proto.Envelope := duo.up.filterMap pairingMessage

/-- The pairing messages on their way to the phone. -/
def Duo.downPairing (duo : Duo σ) : List Proto.Envelope :=
  (duo.down setup).filter fun env ↦ isPairing env.messageType

/-- The desktop's session of the phone. -/
def Duo.session (duo : Duo σ) : Option DeviceSession :=
  duo.center.sessions.pairing.get setup.deviceId

/-- Is the connection's outbox open? -/
def Duo.isOpen (duo : Duo σ) : Bool := (duo.center.registry.outboxes setup.conn).receiving

variable {setup}

theorem pairingMessage_eq_some {frame : Json} {env : Proto.Envelope} :
    pairingMessage frame = some env ↔
      (Frame.text frame).envelope = some env ∧ isPairing env.messageType = true := by
  simp [pairingMessage, Frame.envelope, Option.filter_eq_some_iff]

/-- A message of the phone as the desktop reads it. -/
def phoneMessage (setup : Setup σ) (draws : Android.Draws) (messageType : Proto.MessageType)
    (payload : Json) : Proto.Envelope :=
  Proto.Envelope.new draws.freshId draws.now messageType setup.deviceId payload

theorem pairingMessage_encode {draws : Android.Draws} {messageType : Proto.MessageType}
    {payload : Json} (h : isPairing messageType = true) :
    pairingMessage (draws.envelope messageType.asStr setup.store.deviceId payload).encode =
      some (phoneMessage setup draws messageType payload) := by
  have hread := Envelope.fromJson_encode (rfl : (draws.envelope messageType.asStr
    setup.store.deviceId payload).v = 1) rfl rfl setup.store_deviceId
  simp only [pairingMessage, hread, Except.toOption, Option.filter, h, reduceIte]
  rfl

/-! ## What a delivery to the desktop does -/

section Receive

variable {center : Center σ} {arrival : Arrival} {frame : Json} {env : Proto.Envelope}

/-- The answer of the dispatcher to a message. -/
def answer (setup : Setup σ) (center : Center σ) (arrival : Arrival) (env : Proto.Envelope) :
    Option Proto.Envelope :=
  DeviceSession.reply setup.ctx arrival.dispatch env (center.sessions.pairing.get env.deviceId)

/-- Only a challenge and a confirmation have a pairing message as their answer. -/
theorem isPairing_answer {reply : Proto.Envelope}
    (h : answer setup center arrival env = some reply) (hreply : isPairing reply.messageType = true) :
    env.messageType = .devicePairChallenge ∨ env.messageType = .devicePairConfirm := by
  unfold answer DeviceSession.reply at h
  split at h
  · cases h
    cases hreply
  · next htype _ => exact .inl htype
  · next htype _ => exact .inr htype
  · cases h

theorem receive_of_envelope (h : (Frame.text frame).envelope = some env) :
    Duo.receive setup center arrival frame =
      center.handleEnvelope setup.ctx setup.sink setup.conn arrival env := by
  simp [Duo.receive, h]

/-- The queue of the connection after a frame. -/
theorem outbox_receive (h : (Frame.text frame).envelope = some env)
    (hopen : (center.registry.outboxes setup.conn).receiving = true) :
    (Duo.receive setup center arrival frame).registry.outboxes setup.conn =
      { queue := (center.registry.outboxes setup.conn).queue ++
          (answer setup center arrival env).toList
        receiving := true } := by
  rw [receive_of_envelope h, Center.outboxes_handleEnvelope, dispatch_eq]
  change (match answer setup center arrival env with
    | some reply => (center.registry.send setup.conn reply).outboxes
    | none => center.registry.outboxes) setup.conn = _
  cases answer setup center arrival env with
  | none => cases hbox : center.registry.outboxes setup.conn; simp_all
  | some reply => simp [DeviceRegistry.send, DeviceRegistry.setOutbox, Outbox.send, hopen]

/-- The phone's session after a frame that names it. -/
theorem session_receive (h : (Frame.text frame).envelope = some env)
    (hdevice : env.deviceId = setup.deviceId) :
    (Duo.receive setup center arrival frame).sessions.pairing.get setup.deviceId =
      DeviceSession.after arrival.dispatch env (center.sessions.pairing.get setup.deviceId) := by
  rw [receive_of_envelope h, Center.sessions_handleEnvelope, dispatch_eq, hdevice,
    KeyMap.get_set_self]

/-- A frame that is no pairing message leaves a session as it is; a hello may create a Responder
where there is none. -/
theorem session_receive_other (h : pairingMessage frame = none) :
    (Duo.receive setup center arrival frame).sessions.pairing.get setup.deviceId =
        center.sessions.pairing.get setup.deviceId ∨
      (center.sessions.pairing.get setup.deviceId = none ∧ ∃ responder,
        (Duo.receive setup center arrival frame).sessions.pairing.get setup.deviceId =
          some (.unpaired (.responder responder))) := by
  cases henv : (Frame.text frame).envelope with
  | none => simp [Duo.receive, henv]
  | some env =>
    have hother : isPairing env.messageType ≠ true := by
      intro hpairing
      rw [pairingMessage_eq_some.mpr ⟨henv, hpairing⟩] at h
      cases h
    by_cases hdevice : env.deviceId = setup.deviceId
    · rw [session_receive henv hdevice]
      unfold DeviceSession.after
      split
      · next hnone =>
        cases hstart : Responder.start arrival.dispatch env.deviceId with
        | ok responder => exact .inr ⟨hnone, responder, rfl⟩
        | error e => exact .inl hnone.symm
      · next htype _ => simp [htype, isPairing] at hother
      · next htype _ => simp [htype, isPairing] at hother
      · next htype _ => simp [htype, isPairing] at hother
      · next htype _ => simp [htype, isPairing] at hother
      · exact .inl rfl
    · rw [receive_of_envelope henv, Center.sessions_handleEnvelope, dispatch_eq,
        KeyMap.get_set_of_ne _ _ (Ne.symm hdevice)]
      exact .inl rfl

end Receive

/-! ## What a delivery to the phone does -/

theorem react_eq (phone : PairingMachine) (draws : Android.Draws) (env : Proto.Envelope) :
    Duo.react setup phone draws env =
      phone.handleIncoming setup.jce setup.lexer setup.store draws (.ofRust env) := by
  rw [Duo.react, Envelope.decode_toJson]

theorem asStr_notMem_of_not_isPairing {kind : Proto.MessageType} (h : isPairing kind = false) :
    kind.asStr ∉ [Android.MessageType.devicePairRequest, Android.MessageType.devicePairAccept,
      Android.MessageType.devicePairReject, Android.MessageType.devicePairConfirm,
      Android.MessageType.devicePairComplete] := by
  revert h
  cases kind <;> decide

/-- The phone ignores what is no pairing message. -/
theorem react_other {phone : PairingMachine} {draws : Android.Draws} {env : Proto.Envelope}
    (h : isPairing env.messageType = false) :
    Duo.react setup phone draws env = (none, phone) := by
  rw [react_eq, PairingMachine.route_other (asStr_notMem_of_not_isPairing h)]

theorem react_request (phone : PairingMachine) (draws : Android.Draws) {env : Proto.Envelope}
    (h : env.messageType = .devicePairRequest) :
    Duo.react setup phone draws env = phone.onRequest setup.jce setup.store draws (.ofRust env) := by
  rw [react_eq, PairingMachine.route_request (congrArg Proto.MessageType.asStr h)]

theorem react_confirm (phone : PairingMachine) (draws : Android.Draws) {env : Proto.Envelope}
    (h : env.messageType = .devicePairConfirm) :
    Duo.react setup phone draws env =
      phone.onInitiatorConfirm setup.lexer draws (.ofRust env) setup.store.deviceId := by
  rw [react_eq, PairingMachine.route_confirm (congrArg Proto.MessageType.asStr h)]

theorem react_complete (phone : PairingMachine) (draws : Android.Draws) {env : Proto.Envelope}
    (h : env.messageType = .devicePairComplete) :
    Duo.react setup phone draws env =
      phone.onComplete setup.lexer draws (.ofRust env) setup.store.deviceId := by
  rw [react_eq, PairingMachine.route_complete (congrArg Proto.MessageType.asStr h)]

/-! ## All that a step can do -/

/-- The pairing messages that a call of the phone sends. -/
def sent (result : Option Android.Envelope × PairingMachine) : List Proto.Envelope :=
  (result.1.toList.map Android.Envelope.encode).filterMap pairingMessage

@[simp]
theorem sent_none (m : PairingMachine) : sent (none, m) = [] := rfl

theorem sent_some (setup : Setup σ) (draws : Android.Draws) {messageType : Proto.MessageType}
    (h : isPairing messageType = true) (payload : Json) (m : PairingMachine) :
    sent (some (draws.envelope messageType.asStr setup.store.deviceId payload), m) =
      [phoneMessage setup draws messageType payload] := by
  simp [sent, pairingMessage_encode h]

theorem messageType_of_mem_sent {draws : Android.Draws} {messageType : Proto.MessageType}
    {payload : Json} {m : PairingMachine} {env : Proto.Envelope} (h : isPairing messageType = true)
    (henv : env ∈ sent
      (some (draws.envelope messageType.asStr setup.store.deviceId payload), m)) :
    env.messageType = messageType := by
  rw [sent_some setup draws h, List.mem_singleton] at henv
  rw [henv]
  rfl

/-- What is the same after a step that only moves other messages. -/
structure Duo.SameUp (setup : Setup σ) (duo next : Duo σ) : Prop where
  up : next.upPairing = duo.upPairing
  phone : next.phone = duo.phone

structure Duo.SameDown (setup : Setup σ) (duo next : Duo σ) : Prop where
  down : next.downPairing setup = duo.downPairing setup
  session : next.session setup = duo.session setup

/-- What a step does to the pairing part of the state. -/
inductive Duo.Effect (setup : Setup σ) (duo next : Duo σ) : DuoLabel → Prop
  | upOther (arrival : Arrival) (hup : duo.SameUp setup next)
      (hdown : next.downPairing setup = duo.downPairing setup)
      (hsession : next.session setup = duo.session setup ∨ (duo.session setup = none ∧
        ∃ responder, next.session setup = some (.unpaired (.responder responder)))) :
      Effect setup duo next (.deliverUp arrival)
  | up (arrival : Arrival) (env : Proto.Envelope) (hup : duo.upPairing = env :: next.upPairing)
      (hphone : next.phone = duo.phone)
      (hdown : next.downPairing setup = duo.downPairing setup ++
        (answer setup duo.center arrival env).toList.filter fun env ↦ isPairing env.messageType)
      (hsession : env.deviceId = setup.deviceId →
        next.session setup = DeviceSession.after arrival.dispatch env (duo.session setup))
      (hhead : duo.up.head?.bind pairingMessage = some env) :
      Effect setup duo next (.deliverUp arrival)
  | downOther (draws : Android.Draws) (hup : duo.SameUp setup next)
      (hdown : duo.SameDown setup next) : Effect setup duo next (.deliverDown draws)
  | down (draws : Android.Draws) (env : Proto.Envelope)
      (hdown : duo.downPairing setup = env :: next.downPairing setup)
      (hsession : next.session setup = duo.session setup)
      (hphone : next.phone = (react setup duo.phone draws env).2)
      (hup : next.upPairing = duo.upPairing ++ sent (react setup duo.phone draws env)) :
      Effect setup duo next (.deliverDown draws)
  | call (label : DuoLabel) (result : Option Android.Envelope × PairingMachine)
      (hcall : (∃ draws, label = .initiate draws ∧
          result = duo.phone.initiate setup.store draws) ∨
        (∃ draws, label = .userAccepts draws ∧
          result = duo.phone.userAccepts setup.store draws) ∨
        ∃ draws reason, label = .userRejects draws reason ∧
          result = duo.phone.userRejects setup.store draws reason)
      (hphone : next.phone = result.2) (hup : next.upPairing = duo.upPairing ++ sent result)
      (hdown : duo.SameDown setup next) : Effect setup duo next label
  | traffic (frame : Json) (hup : duo.SameUp setup next) (hdown : duo.SameDown setup next) :
      Effect setup duo next (.traffic frame)
  | incomingAccept (draws : Net.Draws) (hup : duo.SameUp setup next)
      (hsession : next.session setup = duo.session setup)
      (hdown : ∀ env ∈ next.downPairing setup,
        env ∈ duo.downPairing setup ∨ env.messageType = .devicePairConfirm) :
      Effect setup duo next (.incomingAccept draws)

theorem upPairing_cons {duo : Duo σ} {frame : Json} {up : List Json} (h : duo.up = frame :: up) :
    duo.upPairing = (pairingMessage frame).toList ++ up.filterMap pairingMessage := by
  cases hframe : pairingMessage frame <;> simp [Duo.upPairing, h, hframe]

theorem outboxes_incomingAccept (ctx : WsContext) (draws : Net.Draws) (deviceId : Uuid)
    (center : Center σ) (conn : ConnId) :
    let after := (MessageCenter.incomingAccept ctx draws deviceId center).2.registry.outboxes conn
    after = center.registry.outboxes conn ∨ ∃ env, env.messageType = .devicePairConfirm ∧
      after = (center.registry.outboxes conn).send env := by
  dsimp only
  unfold MessageCenter.incomingAccept
  split
  · exact .inl rfl
  dsimp only
  split
  · exact .inl rfl
  split
  · exact .inl rfl
  · next registry hsend =>
    obtain ⟨tx, -, -, -, rfl⟩ := DeviceRegistry.trySend_eq_ok.mp hsend
    by_cases hconn : conn = tx
    · refine .inr ⟨draws.envelope .devicePairConfirm ctx.ourDeviceId
        (PairConfirm.toValue { accepted := true }), rfl, ?_⟩
      simp [DeviceRegistry.send, DeviceRegistry.setOutbox, hconn, MessageCenter.removePending]
    · exact .inl (by simp [DeviceRegistry.send, DeviceRegistry.setOutbox, hconn,
        MessageCenter.removePending])

section Steps

variable {duo next : Duo σ} {label : DuoLabel}

theorem effect_deliverUp {arrival : Arrival} {frame : Json} {up : List Json}
    (hopen : duo.isOpen setup = true) (hup : duo.up = frame :: up)
    (hnext : next = { duo with center := Duo.receive setup duo.center arrival frame, up }) :
    Duo.Effect setup duo next (.deliverUp arrival) ∧ next.isOpen setup = true := by
  subst hnext
  have hpairing := upPairing_cons hup
  cases henv : (Frame.text frame).envelope with
  | none =>
    have hcenter : Duo.receive setup duo.center arrival frame = duo.center := by
      simp [Duo.receive, henv]
    have hother : pairingMessage frame = none := by
      cases hframe : pairingMessage frame with
      | none => rfl
      | some env =>
        rw [(pairingMessage_eq_some.mp hframe).1] at henv
        cases henv
    rw [hother] at hpairing
    rw [hcenter]
    exact ⟨.upOther arrival ⟨hpairing.symm, rfl⟩ rfl (.inl rfl), hopen⟩
  | some env =>
    have houtbox : (Duo.receive setup duo.center arrival frame).registry.outboxes setup.conn = _ :=
      outbox_receive henv hopen
    have hdown : ({ duo with center := Duo.receive setup duo.center arrival frame, up } :
        Duo σ).downPairing setup = duo.downPairing setup ++
          (answer setup duo.center arrival env).toList.filter fun env ↦
            isPairing env.messageType := by
      simp only [Duo.downPairing, Duo.down, houtbox, List.filter_append]
    refine ⟨?_, by simp [Duo.isOpen, houtbox]⟩
    cases hframe : pairingMessage frame with
    | some message =>
      obtain ⟨hmessage, htype⟩ := pairingMessage_eq_some.mp hframe
      rw [henv] at hmessage
      cases hmessage
      rw [hframe] at hpairing
      exact .up arrival env hpairing rfl hdown (fun hdevice ↦ session_receive henv hdevice)
        (by rw [hup]; exact hframe)
    | none =>
      have hquiet : ((answer setup duo.center arrival env).toList.filter
          fun env ↦ isPairing env.messageType) = [] := by
        rw [List.filter_eq_nil_iff]
        intro reply hreply hpairingReply
        have htype := isPairing_answer (Option.mem_toList.mp hreply) hpairingReply
        have hsome := pairingMessage_eq_some.mpr ⟨henv, by rcases htype with h | h <;> rw [h] <;> rfl⟩
        rw [hframe] at hsome
        cases hsome
      rw [hframe] at hpairing
      rw [hquiet, List.append_nil] at hdown
      exact .upOther arrival ⟨hpairing.symm, rfl⟩ hdown (session_receive_other hframe)

theorem effect_deliverDown {draws : Android.Draws} {env : Proto.Envelope}
    {queue : List Proto.Envelope} (hopen : duo.isOpen setup = true)
    (hdown : duo.down setup = env :: queue)
    (hnext : next = ({ duo with center := Duo.dequeue setup duo.center } : Duo σ).send
      (Duo.react setup duo.phone draws env)) :
    Duo.Effect setup duo next (.deliverDown draws) ∧ next.isOpen setup = true := by
  subst hnext
  have hqueue : (duo.center.registry.outboxes setup.conn).queue = env :: queue := hdown
  have hafter : ((({ duo with center := Duo.dequeue setup duo.center } : Duo σ).send
      (Duo.react setup duo.phone draws env)).down setup) = queue := by
    simp [Duo.down, Duo.send, Duo.dequeue, DeviceRegistry.setOutbox, hqueue]
  refine ⟨?_, by simpa [Duo.isOpen, Duo.send, Duo.dequeue, DeviceRegistry.setOutbox] using hopen⟩
  cases htype : isPairing env.messageType with
  | true =>
    refine .down draws env ?_ rfl rfl ?_
    · rw [Duo.downPairing, Duo.downPairing, hdown, hafter]
      simp [htype]
    · simp [Duo.upPairing, Duo.send, sent]
  | false =>
    have hreact : Duo.react setup duo.phone draws env = (none, duo.phone) := react_other htype
    refine .downOther draws ⟨?_, ?_⟩ ⟨?_, rfl⟩
    · simp [Duo.upPairing, Duo.send, hreact]
    · simp [Duo.send, hreact]
    · rw [Duo.downPairing, Duo.downPairing, hdown, hafter]
      simp [htype]

theorem effect_call {result : Option Android.Envelope × PairingMachine}
    (hopen : duo.isOpen setup = true)
    (hcall : (∃ draws, label = .initiate draws ∧
        result = duo.phone.initiate setup.store draws) ∨
      (∃ draws, label = .userAccepts draws ∧
        result = duo.phone.userAccepts setup.store draws) ∨
      ∃ draws reason, label = .userRejects draws reason ∧
        result = duo.phone.userRejects setup.store draws reason) :
    Duo.Effect setup duo (duo.send result) label ∧ (duo.send result).isOpen setup = true :=
  ⟨.call label result hcall rfl (by simp [Duo.upPairing, Duo.send, sent]) ⟨rfl, rfl⟩, hopen⟩

/-- Every step has one of these effects, and leaves the outbox open. -/
theorem effect_of_step (hopen : duo.isOpen setup = true)
    (hstep : duo.step setup label = some next) :
    Duo.Effect setup duo next label ∧ next.isOpen setup = true := by
  cases label with
  | deliverUp arrival =>
    simp only [Duo.step] at hstep
    split at hstep
    · cases hstep
    · next frame up hup => exact effect_deliverUp hopen hup (Option.some.inj hstep).symm
  | deliverDown draws =>
    simp only [Duo.step] at hstep
    split at hstep
    · cases hstep
    · next env queue hdown => exact effect_deliverDown hopen hdown (Option.some.inj hstep).symm
  | initiate draws =>
    cases hstep
    exact effect_call hopen (.inl ⟨draws, rfl, rfl⟩)
  | userAccepts draws =>
    cases hstep
    exact effect_call hopen (.inr (.inl ⟨draws, rfl, rfl⟩))
  | userRejects draws reason =>
    cases hstep
    exact effect_call hopen (.inr (.inr ⟨draws, reason, rfl, rfl⟩))
  | traffic frame =>
    simp only [Duo.step] at hstep
    split at hstep
    · cases hstep
    · next hother =>
      cases hstep
      refine ⟨.traffic frame ⟨?_, rfl⟩ ⟨rfl, rfl⟩, hopen⟩
      simp only [Option.not_isSome_iff_eq_none] at hother
      simp [Duo.upPairing, hother]
  | incomingAccept draws =>
    cases hstep
    have hsession := incomingAccept_pairing setup.ctx draws setup.deviceId duo.center
    refine ⟨.incomingAccept draws ⟨rfl, rfl⟩ (by simp [Duo.session, hsession]) ?_, ?_⟩
    · intro env henv
      rcases outboxes_incomingAccept setup.ctx draws setup.deviceId duo.center setup.conn with
        hsame | ⟨confirm, htype, hsent⟩
      · left
        simpa [Duo.downPairing, Duo.down, hsame] using henv
      · simp only [Duo.downPairing, Duo.down, hsent, Outbox.send] at henv
        rw [if_pos (show (duo.center.registry.outboxes setup.conn).receiving = true from hopen),
          List.filter_append, List.mem_append] at henv
        rcases henv with henv | henv
        · exact .inl henv
        · rw [List.mem_filter, List.mem_singleton] at henv
          exact .inr (henv.1 ▸ htype)
    · rcases outboxes_incomingAccept setup.ctx draws setup.deviceId duo.center setup.conn with
        hsame | ⟨confirm, htype, hsent⟩
      · simpa [Duo.isOpen, hsame] using hopen
      · have hreceiving : (duo.center.registry.outboxes setup.conn).receiving = true := hopen
        simp [Duo.isOpen, hsent, Outbox.send, hreceiving]

end Steps

end PhoneBridge.Pairing
