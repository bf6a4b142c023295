import PhoneBridge.Net.Dispatch
import PhoneBridge.Net.Registry

/-!
# Phone connections

The loop of `ws_handler.rs` that serves one WebSocket: the side effects of each message, the reply
of the dispatcher and the cleanup. The two entry points (`handle_connection` and
`handle_axum_connection`) run the same loop. Persistence is a sink with a state of its own.
-/

namespace PhoneBridge.Net

open Library Proto

/-- The clock and the fresh id that a sink call takes from its surroundings. -/
structure Stamp where
  now : Int64
  freshId : Uuid

/-- A call of the callback for messages that need to be persisted or routed. -/
inductive SinkCall
  | onNotification (envelopeId deviceId : Uuid) (env : NotificationReceived)
  | onNotificationDismissed (envelopeId deviceId : Uuid) (env : NotificationDismissed)
  | onSmsReceived (envelopeId deviceId : Uuid) (env : SmsReceived)
  | onSmsSendResult (envelopeId deviceId : Uuid) (env : SmsSendResult)
  | onCallState (envelopeId deviceId : Uuid) (env : CallState)
  | onCallIncoming (envelopeId deviceId : Uuid) (env : CallIncoming)
  | onCallHistory (envelopeId deviceId : Uuid) (env : CallHistory)
  | onSmsListResult (envelopeId deviceId : Uuid) (env : SmsListResult)
  | onHello (envelopeId deviceId : Uuid) (env : DeviceHello)
  | onUnpair (envelopeId deviceId : Uuid) (env : Unpair)
  | onDisconnect (deviceId : Uuid)

/-- The device that a sink call is about. -/
def SinkCall.deviceId : SinkCall → Uuid
  | .onNotification _ id _ | .onNotificationDismissed _ id _ | .onSmsReceived _ id _
  | .onSmsSendResult _ id _ | .onCallState _ id _ | .onCallIncoming _ id _
  | .onCallHistory _ id _ | .onSmsListResult _ id _ | .onHello _ id _ | .onUnpair _ id _
  | .onDisconnect id => id

/-- How a sink reacts to a call. -/
abbrev WsSink (σ : Type) := Stamp → SinkCall → σ → σ

/-- The state that every connection shares. -/
structure Center (σ : Type) where
  sessions : Sessions
  registry : DeviceRegistry
  store : σ

/-- What handling one frame takes from its surroundings. -/
structure Arrival where
  sink : Stamp
  dispatch : Draws

/-- The sink call for a message; a payload that cannot be read is not passed on. -/
def sinkCall (env : Envelope) : Option SinkCall :=
  match env.messageType with
  | .deviceHello => (env.parsePayload DeviceHello.parse).toOption.map (.onHello env.id env.deviceId)
  | .notificationReceived =>
    (env.parsePayload NotificationReceived.parse).toOption.map (.onNotification env.id env.deviceId)
  | .notificationDismissed =>
    (env.parsePayload NotificationDismissed.parse).toOption.map
      (.onNotificationDismissed env.id env.deviceId)
  | .smsReceived =>
    (env.parsePayload SmsReceived.parse).toOption.map (.onSmsReceived env.id env.deviceId)
  | .smsSendResult =>
    (env.parsePayload SmsSendResult.parse).toOption.map (.onSmsSendResult env.id env.deviceId)
  | .callState => (env.parsePayload CallState.parse).toOption.map (.onCallState env.id env.deviceId)
  | .callIncoming =>
    (env.parsePayload CallIncoming.parse).toOption.map (.onCallIncoming env.id env.deviceId)
  | .callHistory =>
    (env.parsePayload CallHistory.parse).toOption.map (.onCallHistory env.id env.deviceId)
  | .smsListResult =>
    (env.parsePayload SmsListResult.parse).toOption.map (.onSmsListResult env.id env.deviceId)
  | .deviceUnpair => (env.parsePayload Unpair.parse).toOption.map (.onUnpair env.id env.deviceId)
  | _ => none

theorem deviceId_of_sinkCall {env : Envelope} {call : SinkCall} (h : sinkCall env = some call) :
    call.deviceId = env.deviceId := by
  unfold sinkCall at h
  split at h
  all_goals
    first
    | cases h
    | obtain ⟨payload, -, rfl⟩ := Option.map_eq_some_iff.mp h
      rfl

namespace Center

variable {σ : Type}

/-- Pass the message to the sink, if it is one that the sink takes. -/
def persist (center : Center σ) (sink : WsSink σ) (stamp : Stamp) (env : Envelope) : Center σ :=
  match sinkCall env with
  | some call => { center with store := sink stamp call center.store }
  | none => center

/-- A hello registers the connection's sender for the device it names. -/
def registerHello (center : Center σ) (conn : ConnId) (env : Envelope) : Center σ :=
  if env.messageType = .deviceHello then
    { center with registry := center.registry.register env.deviceId conn }
  else center

/-- Dispatch the message and queue the reply on the connection's own channel. -/
def dispatchReply (center : Center σ) (ctx : WsContext) (conn : ConnId) (draws : Draws)
    (env : Envelope) : Center σ :=
  let (reply, sessions) := dispatch ctx draws env center.sessions
  match reply with
  | some reply => { center with sessions, registry := center.registry.send conn reply }
  | none => { center with sessions }

/-- The body of the frame loop for one envelope. -/
def handleEnvelope (center : Center σ) (ctx : WsContext) (sink : WsSink σ) (conn : ConnId)
    (arrival : Arrival) (env : Envelope) : Center σ :=
  ((center.persist sink arrival.sink env).registerHello conn env).dispatchReply ctx conn
    arrival.dispatch env

section Parts

variable (center : Center σ) (ctx : WsContext) (sink : WsSink σ) (conn : ConnId) (arrival : Arrival)
  (env : Envelope)

theorem sessions_persist (stamp : Stamp) :
    (center.persist sink stamp env).sessions = center.sessions := by
  unfold persist
  split <;> rfl

theorem registry_persist (stamp : Stamp) :
    (center.persist sink stamp env).registry = center.registry := by
  unfold persist
  split <;> rfl

theorem sessions_registerHello : (center.registerHello conn env).sessions = center.sessions := by
  unfold registerHello
  split <;> rfl

theorem store_registerHello : (center.registerHello conn env).store = center.store := by
  unfold registerHello
  split <;> rfl

theorem outboxes_registerHello :
    (center.registerHello conn env).registry.outboxes = center.registry.outboxes := by
  unfold registerHello
  split <;> rfl

/-- What one envelope does to the sessions. -/
theorem sessions_handleEnvelope :
    (center.handleEnvelope ctx sink conn arrival env).sessions =
      (dispatch ctx arrival.dispatch env center.sessions).2 := by
  have hsessions : ((center.persist sink arrival.sink env).registerHello conn env).sessions =
      center.sessions := by
    rw [sessions_registerHello, sessions_persist]
  rw [handleEnvelope, dispatchReply, hsessions]
  split
  next reply sessions hdispatch => cases reply <;> simp [hdispatch]

/-- What one envelope does to the registered senders. -/
theorem inner_handleEnvelope :
    (center.handleEnvelope ctx sink conn arrival env).registry.inner =
      if env.messageType = .deviceHello then center.registry.inner.insert env.deviceId conn
      else center.registry.inner := by
  have hinner : ((center.persist sink arrival.sink env).registerHello conn env).registry.inner =
      if env.messageType = .deviceHello then center.registry.inner.insert env.deviceId conn
      else center.registry.inner := by
    unfold registerHello
    split <;> simp [registry_persist]
  rw [handleEnvelope, dispatchReply, ← hinner]
  split
  next reply sessions hdispatch => cases reply <;> rfl

/-- What one envelope does to the channels: the reply goes to the connection's own. -/
theorem outboxes_handleEnvelope :
    (center.handleEnvelope ctx sink conn arrival env).registry.outboxes =
      match (dispatch ctx arrival.dispatch env center.sessions).1 with
      | some reply => (center.registry.send conn reply).outboxes
      | none => center.registry.outboxes := by
  have hsessions : ((center.persist sink arrival.sink env).registerHello conn env).sessions =
      center.sessions := by
    rw [sessions_registerHello, sessions_persist]
  have houtboxes :
      ((center.persist sink arrival.sink env).registerHello conn env).registry.outboxes =
        center.registry.outboxes := by
    rw [outboxes_registerHello, registry_persist]
  rw [handleEnvelope, dispatchReply, hsessions]
  split
  next reply sessions hdispatch =>
    cases reply <;>
      simp [hdispatch, houtboxes, DeviceRegistry.send, DeviceRegistry.setOutbox]

/-- What one envelope does to the store. -/
theorem store_handleEnvelope :
    (center.handleEnvelope ctx sink conn arrival env).store =
      match sinkCall env with
      | some call => sink arrival.sink call center.store
      | none => center.store := by
  have hstore : ((center.persist sink arrival.sink env).registerHello conn env).store =
      match sinkCall env with
      | some call => sink arrival.sink call center.store
      | none => center.store := by
    rw [store_registerHello, persist]
    split <;> rfl
  rw [handleEnvelope, dispatchReply, ← hstore]
  split
  next reply sessions hdispatch => cases reply <;> rfl

end Parts

end Center

/-- Build the `device.hello` envelope the message-center sends on every new WebSocket. -/
def buildDesktopHello (ctx : WsContext) (stamp : Stamp) : Envelope :=
  Envelope.new stamp.freshId stamp.now .deviceHello ctx.ourDeviceId (DeviceHello.toValue {
    name := ctx.ourName
    deviceType := .desktop
    protocolVersion := 1
    pubkey := ctx.ourPublicKeyB64
    port := ctx.ourListenPort
    manufacturer := none
    model := none
    hardwareId := none })

/-- An incoming frame: text that is the JSON of some value, other text, or another kind. -/
inductive Frame
  | text (json : Json)
  | invalidText
  | other

/-- The envelope in a frame; anything else is skipped by the loop. -/
def Frame.envelope : Frame → Option Envelope
  | .text json => (Envelope.fromJson json).toOption
  | .invalidText => none
  | .other => none

/-- How far a connection handler has come. -/
inductive Phase
  /-- in the frame loop -/
  | serving
  /-- out of the loop, the cleanup statements still to run -/
  | closing
  /-- cleaned up, waiting for its writer task -/
  | cleaned
  /-- returned early by a stream error -/
  | returned
  deriving DecidableEq, Repr

/-- The local state of a connection handler. -/
structure Connection where
  deviceIdHolder : Option Uuid
  phase : Phase
  deriving DecidableEq, Repr

/-- The shared state with all connections there have been. -/
structure Hub (σ : Type) where
  center : Center σ
  connections : KeyMap ConnId Connection

/-- A step of one connection handler. -/
inductive HubLabel
  | accept (conn : ConnId) (stamp : Stamp)
  | frame (conn : ConnId) (frame : Frame) (arrival : Arrival)
  | close (conn : ConnId)
  | streamError (conn : ConnId)
  | cleanup (conn : ConnId) (stamp : Stamp)

namespace Hub

variable {σ : Type}

/-- The handler of a connection that is in some phase. -/
def inPhase (hub : Hub σ) (conn : ConnId) (phase : Phase) : Option Connection :=
  (hub.connections.get conn).filter (·.phase = phase)

def put (hub : Hub σ) (conn : ConnId) (connection : Connection) : Hub σ :=
  { hub with connections := hub.connections.insert conn connection }

/-- A new connection gets a channel with the desktop's hello, when the desktop has a name. -/
def accept (hub : Hub σ) (ctx : WsContext) (conn : ConnId) (stamp : Stamp) : Option (Hub σ) :=
  if hub.connections.contains conn then none
  else
    let outbox :=
      if ctx.ourName = "" then Outbox.new else Outbox.new.send (buildDesktopHello ctx stamp)
    let registry := hub.center.registry.setOutbox conn outbox
    some ({ hub with center := { hub.center with registry } }.put conn
      { deviceIdHolder := none, phase := .serving })

/-- One turn of the frame loop. -/
def frame (hub : Hub σ) (ctx : WsContext) (sink : WsSink σ) (conn : ConnId) (frame : Frame)
    (arrival : Arrival) : Option (Hub σ) :=
  (hub.inPhase conn .serving).map fun connection ↦
    match frame.envelope with
    | none => hub
    | some env =>
      let handled := { hub with center := hub.center.handleEnvelope ctx sink conn arrival env }
      if env.messageType = .deviceHello then
        handled.put conn { connection with deviceIdHolder := some env.deviceId }
      else handled

/-- A close frame or the end of the stream leaves the loop. -/
def close (hub : Hub σ) (conn : ConnId) : Option (Hub σ) :=
  (hub.inPhase conn .serving).map fun connection ↦
    hub.put conn { connection with phase := .closing }

/-- A stream error returns from the handler at once. -/
def streamError (hub : Hub σ) (conn : ConnId) : Option (Hub σ) :=
  (hub.inPhase conn .serving).map fun connection ↦
    hub.put conn { connection with phase := .returned }

/-- The cleanup statements: unregister the last device id this connection saw. -/
def cleanup (hub : Hub σ) (sink : WsSink σ) (conn : ConnId) (stamp : Stamp) : Option (Hub σ) :=
  (hub.inPhase conn .closing).map fun connection ↦
    let center :=
      match connection.deviceIdHolder with
      | some id => { hub.center with
          registry := hub.center.registry.unregister id
          store := sink stamp (.onDisconnect id) hub.center.store }
      | none => hub.center
    { hub with center }.put conn { connection with phase := .cleaned }

def step (ctx : WsContext) (sink : WsSink σ) (hub : Hub σ) : HubLabel → Option (Hub σ)
  | .accept conn stamp => hub.accept ctx conn stamp
  | .frame conn frame arrival => hub.frame ctx sink conn frame arrival
  | .close conn => hub.close conn
  | .streamError conn => hub.streamError conn
  | .cleanup conn stamp => hub.cleanup sink conn stamp

/-- A frame without an envelope is skipped. -/
theorem frame_of_none {ctx : WsContext} {sink : WsSink σ} {hub after : Hub σ} {conn : ConnId}
    {frame : Frame} {arrival : Arrival} (henv : frame.envelope = none)
    (h : hub.frame ctx sink conn frame arrival = some after) : after = hub := by
  obtain ⟨connection, -, rfl⟩ := Option.map_eq_some_iff.mp h
  simp only [henv]

/-- The center after a frame with an envelope, and the connections. -/
theorem frame_of_envelope {ctx : WsContext} {sink : WsSink σ} {hub after : Hub σ} {conn : ConnId}
    {frame : Frame} {arrival : Arrival} {env : Envelope} (henv : frame.envelope = some env)
    (h : hub.frame ctx sink conn frame arrival = some after) :
    after.center = hub.center.handleEnvelope ctx sink conn arrival env ∧
      ∀ other, other ≠ conn → after.connections.get other = hub.connections.get other := by
  obtain ⟨connection, -, rfl⟩ := Option.map_eq_some_iff.mp h
  simp only [henv]
  split
  · constructor
    · rfl
    · intro other hother
      exact KeyMap.get_insert_of_ne _ _ hother
  · exact ⟨rfl, fun _ _ ↦ rfl⟩

/-- All that a step of a connection handler can do to the channels. -/
inductive ChannelEffect (ctx : WsContext) (hub next : Hub σ) : Prop
  | unchanged (h : next.center.registry.outboxes = hub.center.registry.outboxes)
  | opened (conn : ConnId) (outbox : Outbox)
      (houtbox : ∀ env ∈ outbox.queue, ∃ stamp, env = buildDesktopHello ctx stamp)
      (h : next.center.registry.outboxes = (hub.center.registry.setOutbox conn outbox).outboxes)
  | replied (conn : ConnId) (draws : Draws) (env reply : Envelope)
      (hreply : (dispatch ctx draws env hub.center.sessions).1 = some reply)
      (h : next.center.registry.outboxes = (hub.center.registry.send conn reply).outboxes)

/-- A connection handler queues the hello and the replies of the dispatcher, and nothing else. -/
theorem channelEffect_of_step {ctx : WsContext} {sink : WsSink σ} {hub next : Hub σ}
    {label : HubLabel} (hstep : hub.step ctx sink label = some next) :
    ChannelEffect ctx hub next := by
  cases label with
  | accept conn stamp =>
    simp only [step, accept] at hstep
    split at hstep
    · cases hstep
    cases hstep
    apply ChannelEffect.opened conn _ _ rfl
    intro env henv
    split at henv
    · cases henv
    · exact ⟨stamp, by simpa [Outbox.send, Outbox.new] using henv⟩
  | frame conn frame arrival =>
    cases henv : frame.envelope with
    | none => exact .unchanged (by rw [frame_of_none henv hstep])
    | some env =>
      have houtboxes := hub.center.outboxes_handleEnvelope ctx sink conn arrival env
      rw [← (frame_of_envelope henv hstep).1] at houtboxes
      cases hreply : (dispatch ctx arrival.dispatch env hub.center.sessions).1 with
      | none => exact .unchanged (by rw [houtboxes, hreply])
      | some reply => exact .replied conn _ env reply hreply (by rw [houtboxes, hreply])
  | close conn =>
    obtain ⟨connection, -, rfl⟩ := Option.map_eq_some_iff.mp hstep
    exact .unchanged rfl
  | streamError conn =>
    obtain ⟨connection, -, rfl⟩ := Option.map_eq_some_iff.mp hstep
    exact .unchanged rfl
  | cleanup conn stamp =>
    obtain ⟨connection, -, rfl⟩ := Option.map_eq_some_iff.mp hstep
    apply ChannelEffect.unchanged
    dsimp only [put]
    split
    · rfl
    · rfl

/-- The sink call that a step of a connection handler makes. -/
def sinkCallOf (hub : Hub σ) : HubLabel → Option (Stamp × SinkCall)
  | .frame conn frame arrival => (hub.inPhase conn .serving).bind fun _ ↦
      (frame.envelope.bind sinkCall).map fun call ↦ (arrival.sink, call)
  | .cleanup conn stamp => (hub.inPhase conn .closing).bind fun connection ↦
      connection.deviceIdHolder.map fun id ↦ (stamp, .onDisconnect id)
  | _ => none

/-- A step of a connection handler changes the store by its sink call, and not otherwise. -/
theorem store_of_step {ctx : WsContext} {sink : WsSink σ} {hub next : Hub σ} {label : HubLabel}
    (hstep : hub.step ctx sink label = some next) :
    next.center.store =
      match hub.sinkCallOf label with
      | some (stamp, call) => sink stamp call hub.center.store
      | none => hub.center.store := by
  cases label with
  | accept conn stamp =>
    simp only [step, accept] at hstep
    split at hstep
    · cases hstep
    · cases hstep
      rfl
  | frame conn frame arrival =>
    obtain ⟨connection, hserving, -⟩ := Option.map_eq_some_iff.mp hstep
    rw [sinkCallOf, hserving, Option.bind_some]
    cases henv : frame.envelope with
    | none =>
      rw [frame_of_none henv hstep]
      rfl
    | some env =>
      rw [(frame_of_envelope henv hstep).1, Center.store_handleEnvelope, Option.bind_some]
      cases sinkCall env <;> rfl
  | close conn =>
    obtain ⟨connection, -, rfl⟩ := Option.map_eq_some_iff.mp hstep
    rfl
  | streamError conn =>
    obtain ⟨connection, -, rfl⟩ := Option.map_eq_some_iff.mp hstep
    rfl
  | cleanup conn stamp =>
    obtain ⟨connection, hclosing, rfl⟩ := Option.map_eq_some_iff.mp hstep
    rw [sinkCallOf, hclosing, Option.bind_some]
    cases hholder : connection.deviceIdHolder with
    | none => simp [put]
    | some id => simp [put]

/-- A step that cannot be taken makes no sink call. -/
theorem sinkCallOf_of_disabled {ctx : WsContext} {sink : WsSink σ} {hub : Hub σ}
    {label : HubLabel} (hstep : hub.step ctx sink label = none) : hub.sinkCallOf label = none := by
  cases label with
  | frame conn frame arrival =>
    rw [sinkCallOf, Option.map_eq_none_iff.mp hstep]
    rfl
  | cleanup conn stamp =>
    rw [sinkCallOf, Option.map_eq_none_iff.mp hstep]
    rfl
  | _ => rfl

end Hub

end PhoneBridge.Net
