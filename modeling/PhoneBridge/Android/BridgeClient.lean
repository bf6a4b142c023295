import PhoneBridge.Android.Ecdh
import PhoneBridge.Android.Envelope

/-!
# The WebSocket client of the phone

`BridgeClient.kt`: the reconnect loop with its three operations, the pinned TLS session, the channel
of outgoing envelopes and the sender that drains it. The cancellation of a coroutine takes effect at
once, so an active loop never finds `running` cleared. What the network does (a dial that fails or
opens, a session that ends, a frame that arrives) comes in as a label.
-/

namespace PhoneBridge.Android

open Library Kotlinx Crypto Proto

/-- The DER bytes of a certificate. -/
abbrev Der := List UInt8

/-- High-level state of the bridge client. -/
inductive BridgeStatus
  | disconnected
  | connecting (host : String) (port : Int32)
  | connected (host : String) (port : Int32) (fingerprint : String)
  | error (message : String)
  deriving DecidableEq, Repr

def BridgeStatus.isConnected : BridgeStatus → Bool
  | .connected .. => true
  | .disconnected | .connecting .. | .error _ => false

/-- An open WebSocket session: the chain that the trust manager captured, the envelope that the
sender has taken out of the channel, and what has gone out on the wire, oldest first. -/
structure Session where
  tls : Bool
  lastChain : List Der
  taken : Option Envelope := none
  sent : List Envelope := []

/-- Where the reconnect loop stands: in `webSocketSession`, in `pumpLoop`, or in `delay`. -/
inductive LoopPhase
  | dialing
  | pumping (session : Session)
  | waiting (delayMs : Nat)

/-- An active `runLoop`, with the arguments that it was launched with. -/
structure Loop where
  host : String
  port : Int32
  pinnedFingerprint : Option String
  attempt : Nat := 0
  phase : LoopPhase := .dialing

/-- The client. `loopJob` is the job that is still active, if there is one. -/
structure BridgeClient where
  status : BridgeStatus := .disconnected
  desktopName : Option String := none
  running : Bool := false
  outgoing : List Envelope := []
  loopJob : Option Loop := none

/-- What comes of a dial: no session, or a completed handshake with a server that presents this
chain where TLS asks for one. -/
inductive Answer
  | failed (message : String)
  | upgraded (chain : List Der)

variable (sha256 : List UInt8 → Digest)

/-! ## Pinning -/

def sha256ColonUpper (der : Der) : String := certFingerprint (sha256 der)

/-- `PinnedTrustManager.checkServerTrusted`. -/
def checkServerTrusted (pinnedFingerprint : Option String) (chain : List Der) : Except String Unit :=
  match pinnedFingerprint with
  | none => .ok ()
  | some pinned =>
    match chain.head? with
    | none => .error "empty server chain"
    | some leaf =>
      let actual := sha256ColonUpper sha256 leaf
      if actual ≠ pinned then
        .error s!"TLS fingerprint mismatch (expected {pinned}, got {actual})"
      else .ok ()

/-- The first half of `runOnce`: TLS only when a fingerprint is pinned. -/
def Loop.dial (loop : Loop) : Answer → Except String Session
  | .failed message => .error message
  | .upgraded chain =>
    if loop.pinnedFingerprint.isSome then
      (checkServerTrusted sha256 loop.pinnedFingerprint chain).map fun _ ↦
        { tls := true, lastChain := chain }
    else .ok { tls := false, lastChain := [] }

/-- The fingerprint that the session reports; a cleartext session reports the empty one. -/
def Session.actualFp (session : Session) : String :=
  match session.lastChain.head? with
  | some leaf => sha256ColonUpper sha256 leaf
  | none => ""

/-! ## The operations -/

namespace BridgeClient

def start (initialHost : String) (initialPort : Int32) (pinnedFingerprint : Option String)
    (c : BridgeClient) : BridgeClient :=
  if c.running then c
  else { c with
    running := true
    loopJob := some { host := initialHost, port := initialPort, pinnedFingerprint }
    desktopName := none
    status := .connecting initialHost initialPort }

def stop (c : BridgeClient) : BridgeClient :=
  { c with running := false, loopJob := none, status := .disconnected }

/-- The status once the cancelled loop has ended: `delay` ends it without a last word, a dial or a
session with the one after the `while`. -/
def cancelledStatus (c : BridgeClient) : BridgeStatus :=
  match c.loopJob with
  | none => c.status
  | some loop =>
    match loop.phase with
    | .waiting _ => c.status
    | .dialing | .pumping _ => .disconnected

def forceReconnect (c : BridgeClient) : BridgeClient :=
  { c with running := false, loopJob := none, status := c.cancelledStatus }

/-- The capacity of the outgoing channel. -/
def capacity : Nat := 64

/-- Queue an envelope; `false` when the channel is full and the envelope is dropped. -/
def send (env : Envelope) (c : BridgeClient) : Bool × BridgeClient :=
  if c.outgoing.length < capacity then (true, { c with outgoing := c.outgoing ++ [env] })
  else (false, c)

section Start

variable {c : BridgeClient} (initialHost : String) (initialPort : Int32)
  (pinnedFingerprint : Option String)

/-- A running client is left as it is. -/
theorem start_of_running (h : c.running = true) :
    c.start initialHost initialPort pinnedFingerprint = c := if_pos h

theorem start_of_not_running (h : c.running = false) :
    c.start initialHost initialPort pinnedFingerprint = { c with
      running := true
      loopJob := some { host := initialHost, port := initialPort, pinnedFingerprint }
      desktopName := none
      status := .connecting initialHost initialPort } := by
  rw [start, if_neg (by rw [h]; decide)]

/-- Where the flag tells of the loop, a client that does not run has none. -/
theorem loopJob_of_not_running (hactive : c.running = c.loopJob.isSome)
    (h : c.running = false) : c.loopJob = none := by
  rw [← Option.not_isSome_iff_eq_none, ← hactive, h]
  decide

end Start

end BridgeClient

/-! ## The reconnect loop -/

/-- The loop in the `delay` after a pass that did not reset the backoff. -/
def Loop.backOff (loop : Loop) : Loop :=
  let attempt := min (loop.attempt + 1) 8
  { loop with attempt, phase := .waiting (500 * 2 ^ attempt) }

/-- What the loop meets: the outcome of a dial, the end of a session (with the message when it is
an exception), the end of the delay, the two halves of the sender's turn, and a frame. -/
inductive LoopEvent
  | dialed (answer : Answer)
  | sessionEnded (error : Option String)
  | delayElapsed
  | taken
  | transmitted
  | received (frame : Json)

namespace BridgeClient

variable (lexer : Lexer)

/-- The desktop's name in an envelope, when it is the hello of a desktop. -/
def helloName (env : Envelope) : Option String :=
  if env.type = Android.MessageType.deviceHello then
    match DeviceHelloPayload.decode lexer env.payload with
    | .ok hello => if hello.deviceType = .desktop then some hello.name else none
    | .error _ => none
  else none

/-- One text frame in `pumpLoop`; a frame that is no envelope is skipped. -/
def receive (frame : Json) (c : BridgeClient) : BridgeClient :=
  match Envelope.decode lexer frame with
  | .error _ => c
  | .ok env =>
    match helloName lexer env with
    | some name => { c with desktopName := some name }
    | none => c

/-- The reconnect loop moves on; `none` when it is not at a point where this can happen. -/
def advance (c : BridgeClient) (loop : Loop) : LoopEvent → Option BridgeClient
  | .dialed answer =>
    match loop.phase with
    | .dialing =>
      match loop.dial sha256 answer with
      | .error message => some { c with status := .error message, loopJob := some loop.backOff }
      | .ok session => some { c with
          status := .connected loop.host loop.port (session.actualFp sha256)
          loopJob := some { loop with phase := .pumping session } }
    | _ => none
  | .sessionEnded error =>
    match loop.phase with
    | .pumping _ =>
      match error with
      | none => some { c with loopJob := some { loop with attempt := 0 }.backOff }
      | some message => some { c with status := .error message, loopJob := some loop.backOff }
    | _ => none
  | .delayElapsed =>
    match loop.phase with
    | .waiting _ => some { c with
        status := .connecting loop.host loop.port
        loopJob := some { loop with phase := .dialing } }
    | _ => none
  | .taken =>
    match loop.phase, c.outgoing with
    | .pumping session, env :: outgoing =>
      if session.taken.isSome then none
      else some { c with
        outgoing
        loopJob := some { loop with phase := .pumping { session with taken := some env } } }
    | _, _ => none
  | .transmitted =>
    match loop.phase with
    | .pumping session =>
      match session.taken with
      | some env => some { c with loopJob := some { loop with
          phase := .pumping { session with taken := none, sent := session.sent ++ [env] } } }
      | none => none
    | _ => none
  | .received frame =>
    match loop.phase with
    | .pumping _ => some (c.receive lexer frame)
    | _ => none

end BridgeClient

/-! ## What the loop can do -/

section Moves

variable (lexer : Lexer) (c : BridgeClient) (loop : Loop)

/-- The moves of the loop, each with what it needs and what it leaves behind. -/
inductive LoopMove : LoopEvent → BridgeClient → Prop
  | refused {answer : Answer} {message : String} (hphase : loop.phase = .dialing)
      (hdial : loop.dial sha256 answer = .error message) :
      LoopMove (.dialed answer) { c with status := .error message, loopJob := some loop.backOff }
  | opened {answer : Answer} {session : Session} (hphase : loop.phase = .dialing)
      (hdial : loop.dial sha256 answer = .ok session) :
      LoopMove (.dialed answer) { c with
        status := .connected loop.host loop.port (session.actualFp sha256)
        loopJob := some { loop with phase := .pumping session } }
  | closed {session : Session} (hphase : loop.phase = .pumping session) :
      LoopMove (.sessionEnded none) { c with loopJob := some { loop with attempt := 0 }.backOff }
  | broken {session : Session} {message : String} (hphase : loop.phase = .pumping session) :
      LoopMove (.sessionEnded (some message))
        { c with status := .error message, loopJob := some loop.backOff }
  | redialed {delayMs : Nat} (hphase : loop.phase = .waiting delayMs) :
      LoopMove .delayElapsed { c with
        status := .connecting loop.host loop.port, loopJob := some { loop with phase := .dialing } }
  | taken {session : Session} {env : Envelope} {outgoing : List Envelope}
      (hphase : loop.phase = .pumping session) (houtgoing : c.outgoing = env :: outgoing)
      (hfree : session.taken = none) :
      LoopMove .taken { c with
        outgoing
        loopJob := some { loop with phase := .pumping { session with taken := some env } } }
  | transmitted {session : Session} {env : Envelope} (hphase : loop.phase = .pumping session)
      (htaken : session.taken = some env) :
      LoopMove .transmitted { c with loopJob := some { loop with
        phase := .pumping { session with taken := none, sent := session.sent ++ [env] } } }
  | received {session : Session} {frame : Json} (hphase : loop.phase = .pumping session) :
      LoopMove (.received frame) (c.receive lexer frame)

variable {sha256 lexer c loop} {event : LoopEvent} {next : BridgeClient}

theorem BridgeClient.move_of_advance (h : c.advance sha256 lexer loop event = some next) :
    LoopMove sha256 lexer c loop event next := by
  unfold advance at h
  split at h
  · split at h
    · next hphase =>
      split at h
      · next hdial => exact Option.some.inj h ▸ .refused hphase hdial
      · next hdial => exact Option.some.inj h ▸ .opened hphase hdial
    · cases h
  · split at h
    · next hphase =>
      split at h
      · exact Option.some.inj h ▸ .closed hphase
      · exact Option.some.inj h ▸ .broken hphase
    · cases h
  · split at h
    · next hphase => exact Option.some.inj h ▸ .redialed hphase
    · cases h
  · split at h
    · next hphase houtgoing =>
      split at h
      · cases h
      · next hfree =>
        exact Option.some.inj h ▸ .taken hphase houtgoing (Option.not_isSome_iff_eq_none.mp hfree)
    · cases h
  · split at h
    · next hphase =>
      split at h
      · next htaken => exact Option.some.inj h ▸ .transmitted hphase htaken
      · cases h
    · cases h
  · split at h
    · next hphase => exact Option.some.inj h ▸ .received hphase
    · cases h

/-- A frame changes the desktop's name at most. -/
theorem BridgeClient.receive_eq (lexer : Lexer) (frame : Json) (c : BridgeClient) :
    ∃ desktopName, c.receive lexer frame = { c with desktopName } := by
  unfold receive
  split
  · exact ⟨_, rfl⟩
  · split <;> exact ⟨_, rfl⟩

/-- Queueing changes the channel at most. -/
theorem BridgeClient.send_eq (env : Envelope) (c : BridgeClient) :
    ∃ outgoing, (c.send env).2 = { c with outgoing } := by
  unfold send
  split <;> exact ⟨_, rfl⟩

end Moves

/-- What drives the client: its operations, and what its loop meets. -/
inductive ClientLabel
  | start (host : String) (port : Int32) (pinnedFingerprint : Option String)
  | stop
  | forceReconnect
  | send (env : Envelope)
  | loop (event : LoopEvent)

/-- One step of the client; without an active loop nothing happens on the network. -/
def BridgeClient.step (lexer : Lexer) (c : BridgeClient) : ClientLabel → Option BridgeClient
  | .start host port pinnedFingerprint => some (c.start host port pinnedFingerprint)
  | .stop => some c.stop
  | .forceReconnect => some c.forceReconnect
  | .send env => some (c.send env).2
  | .loop event =>
    match c.loopJob with
    | some loop => c.advance sha256 lexer loop event
    | none => none

/-- A step of the loop is a move of the active one. -/
theorem BridgeClient.move_of_step {lexer : Lexer} {c next : BridgeClient} {event : LoopEvent}
    (h : c.step sha256 lexer (.loop event) = some next) :
    ∃ loop, c.loopJob = some loop ∧ LoopMove sha256 lexer c loop event next := by
  cases hjob : c.loopJob with
  | none => simp [step, hjob] at h
  | some loop =>
    simp only [step, hjob] at h
    exact ⟨loop, rfl, move_of_advance h⟩

end PhoneBridge.Android
