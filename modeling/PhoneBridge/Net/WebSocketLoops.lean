import PhoneBridge.Net.Connection

/-!
# The two WebSocket loops

`handle_connection` serves a socket of tungstenite and `handle_axum_connection` one of axum. Each is
translated from its own body, over the operations that it performs on its surroundings; what an
operation does, and what other tasks do before it, is up to the interpretation. The two bodies
perform the same operations in the same order under every interpretation, and under the one by the
center's state they handle an envelope as one turn of the frame loop does.
-/

namespace PhoneBridge.Net

open Library Proto

/-! ## Frames -/

structure CloseFrame where
  code : UInt16
  reason : String
  deriving DecidableEq, Repr

/-- What a peer can send. -/
inductive WireFrame
  | text (text : String)
  | binary (data : List UInt8)
  | ping (data : List UInt8)
  | pong (data : List UInt8)
  | close (frame : Option CloseFrame)

/-- A message of tungstenite. A raw frame is never read from a socket. -/
inductive Message
  | text (text : String)
  | binary (data : List UInt8)
  | ping (data : List UInt8)
  | pong (data : List UInt8)
  | close (frame : Option CloseFrame)
  | frame (data : List UInt8)

/-- A message of axum. -/
inductive AxumMessage
  | text (text : String)
  | binary (data : List UInt8)
  | ping (data : List UInt8)
  | pong (data : List UInt8)
  | close (frame : Option CloseFrame)

/-- How tungstenite presents a frame. -/
def WireFrame.message : WireFrame → Message
  | .text t => .text t
  | .binary data => .binary data
  | .ping data => .ping data
  | .pong data => .pong data
  | .close frame => .close frame

/-- How axum presents a frame. -/
def WireFrame.axumMessage : WireFrame → AxumMessage
  | .text t => .text t
  | .binary data => .binary data
  | .ping data => .ping data
  | .pong data => .pong data
  | .close frame => .close frame

/-- The errors that end a handler early; both libraries wrap the error of the stream. -/
inductive WsError (ε : Type)
  | ws (error : ε)
  | axum (error : ε)
  deriving DecidableEq, Repr

/-- The error of the stream. -/
def WsError.cause {ε : Type} : WsError ε → ε
  | .ws error => error
  | .axum error => error

/-! ## The handlers -/

/-- What a handler does to its surroundings. -/
structure HandlerOps (m : Type → Type) where
  /-- call the persistence sink -/
  sink : SinkCall → m Unit
  /-- remember the device id of the connection -/
  setDeviceId : Uuid → m Unit
  deviceId : m (Option Uuid)
  /-- register the connection's sender for a device -/
  register : Uuid → m Unit
  unregister : Uuid → m Unit
  buildDesktopHello : m Envelope
  dispatch : Envelope → m (Option Envelope)
  /-- queue an envelope on the connection's own channel; a failure is only logged -/
  send : Envelope → m Bool
  publish : Envelope → m Unit
  dropSender : m Unit
  awaitWriter : m Unit

/-- `if let Ok(payload) = env.parse_payload() { … }` -/
def ifOk {m : Type → Type} [Monad m] {α : Type} (parsed : Except SerdeError α) (body : α → m Unit) :
    m Unit :=
  match parsed with
  | .ok payload => body payload
  | .error _ => pure ()

section Handlers

variable {m : Type → Type} [Monad m] (ops : HandlerOps m) {ε : Type}

/-! ### `handle_connection` -/

namespace HandleConnection

/-- Per-message side effects. -/
def sideEffects (env : Envelope) : m Unit :=
  match env.messageType with
  | .deviceHello => do
    let hello := (env.parsePayload DeviceHello.parse).toOption
    if let some h := hello then
      ops.sink (.onHello env.id env.deviceId h)
    ops.setDeviceId env.deviceId
    ops.register env.deviceId
  | .notificationReceived =>
    ifOk (env.parsePayload NotificationReceived.parse) fun n ↦
      ops.sink (.onNotification env.id env.deviceId n)
  | .notificationDismissed =>
    ifOk (env.parsePayload NotificationDismissed.parse) fun n ↦
      ops.sink (.onNotificationDismissed env.id env.deviceId n)
  | .smsReceived =>
    ifOk (env.parsePayload SmsReceived.parse) fun s ↦
      ops.sink (.onSmsReceived env.id env.deviceId s)
  | .smsSendResult =>
    ifOk (env.parsePayload SmsSendResult.parse) fun s ↦
      ops.sink (.onSmsSendResult env.id env.deviceId s)
  | .callState =>
    ifOk (env.parsePayload CallState.parse) fun c ↦ ops.sink (.onCallState env.id env.deviceId c)
  | .callIncoming =>
    ifOk (env.parsePayload CallIncoming.parse) fun c ↦
      ops.sink (.onCallIncoming env.id env.deviceId c)
  | .callHistory =>
    ifOk (env.parsePayload CallHistory.parse) fun c ↦
      ops.sink (.onCallHistory env.id env.deviceId c)
  | .smsListResult =>
    ifOk (env.parsePayload SmsListResult.parse) fun r ↦
      ops.sink (.onSmsListResult env.id env.deviceId r)
  | .deviceUnpair =>
    ifOk (env.parsePayload Unpair.parse) fun u ↦ ops.sink (.onUnpair env.id env.deviceId u)
  | _ => pure ()

/-- The body of the loop for one envelope. -/
def handle (env : Envelope) : m Unit := do
  sideEffects ops env
  if let some reply ← ops.dispatch env then
    let _ ← ops.send reply
  -- always publish to the bus for subscribers
  ops.publish env

/-- The frame loop over what is left of the stream. -/
def loop (fromStr : String → Except SerdeError Envelope) :
    List (Except ε WireFrame) → m (Except (WsError ε) Unit)
  | [] => pure (.ok ())
  | .error e :: _ => pure (.error (.ws e))
  | .ok frame :: stream =>
    match frame.message with
    | .text t =>
      match fromStr t with
      | .ok env => do
        handle ops env
        loop fromStr stream
      | .error _ => loop fromStr stream
    | .close _ => pure (.ok ())
    | .ping _ => loop fromStr stream
    | _ => loop fromStr stream

/-- The statements after the loop: a stream error returns at once, else the device is unregistered. -/
def leave (result : Except (WsError ε) Unit) : m (Except (WsError ε) Unit) :=
  match result with
  | .error e => return .error e
  | .ok () => do
    if let some id ← ops.deviceId then
      ops.unregister id
      ops.sink (.onDisconnect id)
    ops.dropSender
    ops.awaitWriter
    return .ok ()

/-- Drive a single WebSocket connection, from the accepted handshake on. -/
def handleConnection (ourName : String) (fromStr : String → Except SerdeError Envelope)
    (stream : List (Except ε WireFrame)) : m (Except (WsError ε) Unit) := do
  if ourName ≠ "" then
    let hello ← ops.buildDesktopHello
    let _ ← ops.send hello
  let result ← loop ops fromStr stream
  leave ops result

end HandleConnection

/-! ### `handle_axum_connection` -/

namespace HandleAxumConnection

/-- Per-message side effects. -/
def sideEffects (env : Envelope) : m Unit :=
  match env.messageType with
  | .deviceHello => do
    ifOk (env.parsePayload DeviceHello.parse) fun h ↦
      ops.sink (.onHello env.id env.deviceId h)
    ops.setDeviceId env.deviceId
    ops.register env.deviceId
  | .notificationReceived =>
    ifOk (env.parsePayload NotificationReceived.parse) fun n ↦
      ops.sink (.onNotification env.id env.deviceId n)
  | .notificationDismissed =>
    ifOk (env.parsePayload NotificationDismissed.parse) fun n ↦
      ops.sink (.onNotificationDismissed env.id env.deviceId n)
  | .smsReceived =>
    ifOk (env.parsePayload SmsReceived.parse) fun s ↦
      ops.sink (.onSmsReceived env.id env.deviceId s)
  | .smsSendResult =>
    ifOk (env.parsePayload SmsSendResult.parse) fun s ↦
      ops.sink (.onSmsSendResult env.id env.deviceId s)
  | .callState =>
    ifOk (env.parsePayload CallState.parse) fun c ↦ ops.sink (.onCallState env.id env.deviceId c)
  | .callIncoming =>
    ifOk (env.parsePayload CallIncoming.parse) fun c ↦
      ops.sink (.onCallIncoming env.id env.deviceId c)
  | .callHistory =>
    ifOk (env.parsePayload CallHistory.parse) fun c ↦
      ops.sink (.onCallHistory env.id env.deviceId c)
  | .smsListResult =>
    ifOk (env.parsePayload SmsListResult.parse) fun r ↦
      ops.sink (.onSmsListResult env.id env.deviceId r)
  | .deviceUnpair =>
    ifOk (env.parsePayload Unpair.parse) fun u ↦ ops.sink (.onUnpair env.id env.deviceId u)
  | _ => pure ()

/-- The body of the loop for one envelope. -/
def handle (env : Envelope) : m Unit := do
  sideEffects ops env
  if let some reply ← ops.dispatch env then
    let _ ← ops.send reply
  ops.publish env

/-- The frame loop over what is left of the stream. -/
def loop (fromStr : String → Except SerdeError Envelope) :
    List (Except ε WireFrame) → m (Except (WsError ε) Unit)
  | [] => pure (.ok ())
  | .error e :: _ => pure (.error (.axum e))
  | .ok frame :: stream =>
    match frame.axumMessage with
    | .text t =>
      match fromStr t with
      | .ok env => do
        handle ops env
        loop fromStr stream
      | .error _ => loop fromStr stream
    | .close _ => pure (.ok ())
    | _ => loop fromStr stream

/-- The statements after the loop: a stream error returns at once, else the device is unregistered. -/
def leave (result : Except (WsError ε) Unit) : m (Except (WsError ε) Unit) :=
  match result with
  | .error e => return .error e
  | .ok () => do
    if let some id ← ops.deviceId then
      ops.unregister id
      ops.sink (.onDisconnect id)
    ops.dropSender
    ops.awaitWriter
    return .ok ()

/-- Drive a single WebSocket connection from an axum WebSocket. -/
def handleAxumConnection (ourName : String) (fromStr : String → Except SerdeError Envelope)
    (stream : List (Except ε WireFrame)) : m (Except (WsError ε) Unit) := do
  if ourName ≠ "" then
    let hello ← ops.buildDesktopHello
    let _ ← ops.send hello
  let result ← loop ops fromStr stream
  leave ops result

end HandleAxumConnection

end Handlers

/-! ## The same operations in the same order -/

section Agreement

variable {m : Type → Type} [Monad m] [LawfulMonad m] (ops : HandlerOps m) {ε : Type}

theorem axum_sideEffects (env : Envelope) :
    HandleAxumConnection.sideEffects ops env = HandleConnection.sideEffects ops env := by
  unfold HandleAxumConnection.sideEffects HandleConnection.sideEffects
  split
  · -- only the hello is read in two ways
    cases env.parsePayload DeviceHello.parse <;> simp [ifOk, Except.toOption]
  all_goals rfl

theorem axum_handle (env : Envelope) :
    HandleAxumConnection.handle ops env = HandleConnection.handle ops env := by
  unfold HandleAxumConnection.handle HandleConnection.handle
  rw [axum_sideEffects]

/-- Pass a call to the sink, if there is one. -/
def persist (call : Option SinkCall) : m Unit :=
  match call with
  | some call => ops.sink call
  | none => pure ()

/-- A hello is remembered and registered. -/
def registerHello (env : Envelope) : m Unit :=
  if env.messageType = .deviceHello then do
    ops.setDeviceId env.deviceId
    ops.register env.deviceId
  else pure ()

omit [LawfulMonad m] in
theorem ifOk_eq_persist {α : Type} (parsed : Except SerdeError α) (call : α → SinkCall) :
    (ifOk parsed fun payload ↦ ops.sink (call payload)) = persist ops (parsed.toOption.map call) := by
  cases parsed <;> rfl

/-- The side effects are a call of the sink and the registration of a hello. -/
theorem sideEffects_eq (env : Envelope) : HandleConnection.sideEffects ops env = (do
    persist ops (sinkCall env)
    registerHello ops env) := by
  unfold HandleConnection.sideEffects sinkCall registerHello
  cases env.messageType
  · cases env.parsePayload DeviceHello.parse <;> simp [persist, Except.toOption]
  all_goals simp [ifOk_eq_persist, persist]

/-- The reply of the dispatcher is queued and the envelope published. -/
def answer (env : Envelope) : m Unit := do
  if let some reply ← ops.dispatch env then
    let _ ← ops.send reply
  ops.publish env

theorem handle_eq (env : Envelope) : HandleConnection.handle ops env = (do
    persist ops (sinkCall env)
    registerHello ops env
    answer ops env) := by
  unfold HandleConnection.handle answer
  rw [sideEffects_eq, bind_assoc]

/-- The same result, with the error of the stream wrapped as axum's. -/
def viaAxum (result : Except (WsError ε) Unit) : Except (WsError ε) Unit :=
  result.mapError fun error ↦ .axum error.cause

/-- The result with the error of the stream itself. -/
def causeOf (result : Except (WsError ε) Unit) : Except ε Unit := result.mapError WsError.cause

variable (fromStr : String → Except SerdeError Envelope) (stream : List (Except ε WireFrame))

/-- Induction on the stream: a ping has an arm of its own in one loop and shares the last arm of the
other. -/
theorem axum_loop : HandleAxumConnection.loop ops fromStr stream =
    viaAxum <$> HandleConnection.loop ops fromStr stream := by
  induction stream with
  | nil =>
    simp only [HandleAxumConnection.loop, HandleConnection.loop, map_pure]
    rfl
  | cons item stream ih =>
    cases item with
    | error e =>
      simp only [HandleAxumConnection.loop, HandleConnection.loop, map_pure]
      rfl
    | ok frame =>
      simp only [HandleAxumConnection.loop, HandleConnection.loop]
      cases frame with
      | text t =>
        simp only [WireFrame.message, WireFrame.axumMessage]
        cases fromStr t with
        | error e => exact ih
        | ok env => simp only [axum_handle, map_bind, ih]
      | binary data => exact ih
      | ping data => exact ih
      | pong data => exact ih
      | close reason =>
        simp only [WireFrame.message, WireFrame.axumMessage, map_pure]
        rfl

theorem axum_leave (result : Except (WsError ε) Unit) :
    causeOf <$> HandleAxumConnection.leave ops (viaAxum result) =
      causeOf <$> HandleConnection.leave ops result := by
  cases result with
  | error e =>
    simp only [viaAxum, Except.mapError, HandleAxumConnection.leave, HandleConnection.leave,
      map_pure]
    rfl
  | ok _ => rfl

/-- Whatever the operations do, the two handlers perform the same ones in the same order and return
for the same cause. -/
theorem handlers_perform_alike (ourName : String) :
    causeOf <$> HandleAxumConnection.handleAxumConnection ops ourName fromStr stream =
      causeOf <$> HandleConnection.handleConnection ops ourName fromStr stream := by
  have hserve : (HandleAxumConnection.loop ops fromStr stream >>= fun result ↦
      causeOf <$> HandleAxumConnection.leave ops result) =
      (HandleConnection.loop ops fromStr stream >>= fun result ↦
        causeOf <$> HandleConnection.leave ops result) := by
    rw [axum_loop, bind_map_left]
    exact bind_congr fun result ↦ axum_leave ops result
  unfold HandleAxumConnection.handleAxumConnection HandleConnection.handleConnection
  split
  · simp only [map_bind, hserve]
  · simp only [map_bind, hserve]

end Agreement

/-! ## In the center -/

/-- What an operation takes from its surroundings: what other tasks have done to the shared state
since the last one, the clock and the draws. -/
structure Moment (σ : Type) where
  meanwhile : Center σ → Center σ
  stamp : Stamp
  draws : Draws

/-- What a handler has done. -/
inductive Effect
  | sink (stamp : Stamp) (call : SinkCall)
  | registered (deviceId : Uuid)
  | unregistered (deviceId : Uuid)
  | dispatched (before after : Sessions)
  | sent (env : Envelope) (delivered : Bool)
  | published (env : Envelope)
  | senderDropped
  | writerAwaited

/-- The shared state as a handler finds it, with the handler's own state and what it has done so
far. -/
structure World (σ : Type) where
  center : Center σ
  deviceIdHolder : Option Uuid
  moment : Nat
  trace : List Effect

variable {σ : Type}

/-- Other tasks act, then the operation does. -/
def World.act {α : Type} (script : Nat → Moment σ)
    (operation : Moment σ → World σ → α × World σ) : StateM (World σ) α := fun world ↦
  let now := script world.moment
  operation now { world with
    center := now.meanwhile world.center
    moment := world.moment + 1 }

def World.record (world : World σ) (effect : Effect) : World σ :=
  { world with trace := world.trace ++ [effect] }

/-- The operations of the handler of a connection on the center's state. -/
def connectionOps (ctx : WsContext) (sink : WsSink σ) (conn : ConnId) (script : Nat → Moment σ) :
    HandlerOps (StateM (World σ)) where
  sink call := World.act script fun now world ↦
    ((), { world with center := { world.center with
      store := sink now.stamp call world.center.store } }.record (.sink now.stamp call))
  setDeviceId id := World.act script fun _ world ↦ ((), { world with deviceIdHolder := some id })
  deviceId := World.act script fun _ world ↦ (world.deviceIdHolder, world)
  register id := World.act script fun _ world ↦
    ((), { world with center := { world.center with
      registry := world.center.registry.register id conn } }.record (.registered id))
  unregister id := World.act script fun _ world ↦
    ((), { world with center := { world.center with
      registry := world.center.registry.unregister id } }.record (.unregistered id))
  buildDesktopHello := World.act script fun now world ↦ (Net.buildDesktopHello ctx now.stamp, world)
  dispatch env := World.act script fun now world ↦
    let (reply, sessions) := Net.dispatch ctx now.draws env world.center.sessions
    (reply, { world with center := { world.center with sessions } }.record
      (.dispatched world.center.sessions sessions))
  send env := World.act script fun _ world ↦
    let delivered := (world.center.registry.outboxes conn).receiving
    (delivered, { world with center := { world.center with
      registry := world.center.registry.send conn env } }.record (.sent env delivered))
  publish env := World.act script fun _ world ↦ ((), world.record (.published env))
  dropSender := World.act script fun _ world ↦ ((), world.record .senderDropped)
  awaitWriter := World.act script fun _ world ↦ ((), world.record .writerAwaited)

section Center

variable (ctx : WsContext) (sink : WsSink σ) (conn : ConnId)

/-- Serve a tungstenite socket. -/
def runConnection {ε : Type} (script : Nat → Moment σ)
    (fromStr : String → Except SerdeError Envelope) (stream : List (Except ε WireFrame)) :
    StateM (World σ) (Except (WsError ε) Unit) :=
  HandleConnection.handleConnection (connectionOps ctx sink conn script) ctx.ourName fromStr stream

/-- Serve an axum socket. -/
def runAxumConnection {ε : Type} (script : Nat → Moment σ)
    (fromStr : String → Except SerdeError Envelope) (stream : List (Except ε WireFrame)) :
    StateM (World σ) (Except (WsError ε) Unit) :=
  HandleAxumConnection.handleAxumConnection (connectionOps ctx sink conn script) ctx.ourName fromStr
    stream

/-- Served by either handler, a stream of frames leads to the same sequence of sink calls, registry
changes, session changes, replies and publications, to the same state and to the same result. -/
theorem websocket_loops_agree {ε : Type} (script : Nat → Moment σ)
    (fromStr : String → Except SerdeError Envelope) (stream : List (Except ε WireFrame))
    (before : World σ) :
    ((runAxumConnection ctx sink conn script fromStr stream).run before).2 =
      ((runConnection ctx sink conn script fromStr stream).run before).2 ∧
    causeOf ((runAxumConnection ctx sink conn script fromStr stream).run before).1 =
      causeOf ((runConnection ctx sink conn script fromStr stream).run before).1 := by
  have halike := congrArg (fun served : StateM (World σ) (Except ε Unit) ↦ served.run before)
    (handlers_perform_alike (connectionOps ctx sink conn script) fromStr stream ctx.ourName)
  simp only [StateT.run_map] at halike
  have hworld := congrArg Prod.snd halike
  have hcause := congrArg Prod.fst halike
  exact ⟨hworld, hcause⟩

/-- No other task acts, and every operation finds the same clock and draws. -/
def Moment.alone (arrival : Arrival) : Moment σ where
  meanwhile := id
  stamp := arrival.sink
  draws := arrival.dispatch

/-- The operations when no other task acts. -/
def aloneOps (arrival : Arrival) : HandlerOps (StateM (World σ)) :=
  connectionOps ctx sink conn fun _ ↦ Moment.alone arrival

theorem run_persist (arrival : Arrival) (env : Envelope) (world : World σ) :
    let after := ((persist (aloneOps ctx sink conn arrival) (sinkCall env)).run world).2
    after.center = world.center.persist sink arrival.sink env ∧
      after.deviceIdHolder = world.deviceIdHolder := by
  unfold persist Center.persist
  cases sinkCall env <;> exact ⟨rfl, rfl⟩

theorem run_registerHello (arrival : Arrival) (env : Envelope) (world : World σ) :
    let after := ((registerHello (aloneOps ctx sink conn arrival) env).run world).2
    after.center = world.center.registerHello conn env ∧
      after.deviceIdHolder =
        if env.messageType = .deviceHello then some env.deviceId else world.deviceIdHolder := by
  unfold registerHello Center.registerHello
  split <;> exact ⟨rfl, rfl⟩

theorem run_answer (arrival : Arrival) (env : Envelope) (world : World σ) :
    let after := ((answer (aloneOps ctx sink conn arrival) env).run world).2
    after.center = world.center.dispatchReply ctx conn arrival.dispatch env ∧
      after.deviceIdHolder = world.deviceIdHolder := by
  let dispatched := dispatch ctx arrival.dispatch env world.center.sessions
  have hrun : ((aloneOps ctx sink conn arrival).dispatch env).run world =
      (dispatched.1, { world with
        center := { world.center with sessions := dispatched.2 }
        moment := world.moment + 1
        trace := world.trace ++ [.dispatched world.center.sessions dispatched.2] }) := rfl
  have hdispatch : dispatch ctx arrival.dispatch env world.center.sessions =
      (dispatched.1, dispatched.2) := rfl
  unfold answer Center.dispatchReply
  simp only [StateT.run_bind, hrun, hdispatch]
  cases dispatched.1 <;> exact ⟨rfl, rfl⟩

/-- Alone, both handlers do to the center what one turn of the frame loop does. -/
theorem run_handle (arrival : Arrival) (env : Envelope) (world : World σ) :
    let after := ((HandleConnection.handle (aloneOps ctx sink conn arrival) env).run world).2
    after.center = world.center.handleEnvelope ctx sink conn arrival env ∧
      after.deviceIdHolder =
        if env.messageType = .deviceHello then some env.deviceId else world.deviceIdHolder := by
  let ops := aloneOps ctx sink conn arrival
  let persisted := ((persist ops (sinkCall env)).run world).2
  let registered := ((registerHello ops env).run persisted).2
  have hpersist := run_persist ctx sink conn arrival env world
  have hregister := run_registerHello ctx sink conn arrival env persisted
  have hanswer := run_answer ctx sink conn arrival env registered
  rw [handle_eq]
  constructor
  · calc ((answer ops env).run registered).2.center
      _ = registered.center.dispatchReply ctx conn arrival.dispatch env := hanswer.1
      _ = (persisted.center.registerHello conn env).dispatchReply ctx conn arrival.dispatch env := by
        rw [hregister.1]
      _ = world.center.handleEnvelope ctx sink conn arrival env := by
        rw [hpersist.1, Center.handleEnvelope]
  · calc ((answer ops env).run registered).2.deviceIdHolder
      _ = registered.deviceIdHolder := hanswer.2
      _ = if env.messageType = .deviceHello then some env.deviceId
          else persisted.deviceIdHolder := hregister.2
      _ = if env.messageType = .deviceHello then some env.deviceId
          else world.deviceIdHolder := by rw [hpersist.2]

end Center

end PhoneBridge.Net
