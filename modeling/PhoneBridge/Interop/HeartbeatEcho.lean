import PhoneBridge.Android.HeartbeatController
import PhoneBridge.Android.ReconnectLoop
import PhoneBridge.Net.Dispatch

/-!
# Heartbeats and their echoes

The heartbeat controller of the phone and the dispatcher of the center over one session that stays
open. A heartbeat goes through the outgoing channel to the center, which answers each with a new
envelope; the answer is an echo for the phone when it carries the id of the heartbeat and when the
controller has begun to collect.
-/

namespace PhoneBridge.Interop

open Library Kotlinx Crypto Net Android

/-- What the two sides are given. -/
structure EchoSetup where
  lexer : Lexer
  sha256 : List UInt8 → Digest
  store : IdentityStore
  ctx : WsContext

/-- The two sides of the session: how many frames of the phone have arrived, and the messages on
their way to the phone, each with the id of the heartbeat that it answers. `answered` says whether
the answer to the heartbeat of the round has been delivered. -/
structure Heartbeats where
  controller : HeartbeatController := {}
  client : BridgeClient
  arrived : Nat := 0
  sessions : Sessions
  down : List (Option String × Proto.Envelope) := []
  answered : Bool := false

/-- The steps; `enqueue` and `push` are the other traffic of the phone and of the center. -/
inductive HeartbeatLabel
  | connected
  | beat (draws : Android.Draws)
  | collect
  | timeout
  | rested
  | enqueue (env : Android.Envelope)
  | taken
  | transmitted
  | arrive (draws : Net.Draws)
  | push (env : Proto.Envelope)
  | deliver

namespace Heartbeats

variable (setup : EchoSetup)

/-- The frames that the open session has sent. -/
def frames (s : Heartbeats) : List Android.Envelope :=
  match s.client.loopJob with
  | some { phase := .pumping session, .. } => session.sent
  | _ => []

/-- The heartbeat that an answer to the envelope answers. -/
def answers (env : Proto.Envelope) : Option String :=
  if env.messageType = .deviceHeartbeat then some env.id.toText else none

/-- The center dispatches a frame of the phone; a frame that cannot be read is skipped. -/
def arrive (s : Heartbeats) (draws : Net.Draws) (frame : Android.Envelope) : Heartbeats :=
  let s := { s with arrived := s.arrived + 1 }
  match Proto.Envelope.fromJson frame.encode with
  | .error _ => s
  | .ok env =>
    let (reply, sessions) := dispatch setup.ctx draws env s.sessions
    { s with sessions, down := s.down ++ (reply.map fun reply ↦ (answers env, reply)).toList }

/-- The phone receives a message that answers this heartbeat, if it answers one. -/
def deliver (s : Heartbeats) (heartbeat : Option String) (env : Proto.Envelope) : Heartbeats :=
  { s with
    controller :=
      match Envelope.decode setup.lexer env.toJson with
      | .ok env => s.controller.receive env
      | .error _ => s.controller
    client := s.client.receive setup.lexer env.toJson
    answered := s.answered || (heartbeat.isSome && heartbeat == s.controller.round) }

def step (s : Heartbeats) : HeartbeatLabel → Option Heartbeats
  | .connected =>
    match s.client.status with
    | .connected .. => s.controller.connected.map fun controller ↦ { s with controller }
    | _ => none
  | .beat draws =>
    if s.controller.phase = .sending then
      let (controller, client) := s.controller.sendOne setup.store draws s.client
      some { s with controller, client, answered := false }
    else none
  | .collect => s.controller.collect.map fun controller ↦ { s with controller }
  | .timeout => (s.controller.timeout s.client).map fun (controller, client) ↦
      { s with controller, client }
  | .rested => s.controller.rested.map fun controller ↦ { s with controller }
  | .enqueue env => some { s with client := (s.client.send env).2 }
  | .taken => (s.client.step setup.sha256 setup.lexer (.loop .taken)).map fun client ↦
      { s with client }
  | .transmitted => (s.client.step setup.sha256 setup.lexer (.loop .transmitted)).map fun client ↦
      { s with client }
  | .arrive draws => s.frames[s.arrived]?.map fun frame ↦ s.arrive setup draws frame
  | .push env => some { s with down := s.down ++ [(none, env)] }
  | .deliver =>
    match s.down with
    | (heartbeat, env) :: down => some ({ s with down }.deliver setup heartbeat env)
    | [] => none

/-- The controller has counted no miss, and the client has not been forced to reconnect. -/
def NeverMisses (s : Heartbeats) : Prop := s.controller.missed = 0 ∧ s.client.running = true

instance (s : Heartbeats) : Decidable s.NeverMisses := by
  unfold NeverMisses
  infer_instance

/-- A round is over only after the answer to its heartbeat has been delivered. -/
def Prompt (s : Heartbeats) : HeartbeatLabel → Prop
  | .timeout => s.answered = true
  | _ => True

/-- A round begins when the channel has room, and the answer to a heartbeat carries the id of the
heartbeat and comes when the controller collects. -/
def Echoes (s : Heartbeats) : HeartbeatLabel → Prop
  | .beat _ => s.client.outgoing.length < BridgeClient.capacity
  | .deliver => ∀ reply ∈ s.down.head?, reply.1.isSome = true → reply.1 = s.controller.round →
      s.controller.phase = .collecting reply.2.id.toText
  | _ => True

instance (s : Heartbeats) (label : HeartbeatLabel) : Decidable (s.Prompt label) := by
  cases label <;> unfold Prompt <;> infer_instance

instance (s : Heartbeats) (label : HeartbeatLabel) : Decidable (s.Echoes label) := by
  cases label <;> unfold Echoes <;> infer_instance

/-- No miss so far, the answer to a heartbeat ends its round, and answers to heartbeats are
heartbeats. -/
structure Echoed (s : Heartbeats) : Prop where
  missed : s.controller.missed = 0
  running : s.client.running = true
  unanswered : s.controller.round.isSome = true → s.answered = false
  replies : ∀ reply ∈ s.down, reply.1.isSome = true → reply.2.messageType = .deviceHeartbeat

/-! ## The steps keep the rounds short -/

section Steps

variable {setup} {s next : Heartbeats} {label : HeartbeatLabel}

theorem running_send (client : BridgeClient) (env : Android.Envelope) :
    (client.send env).2.running = client.running := by
  unfold BridgeClient.send
  split <;> rfl

theorem running_receive (client : BridgeClient) (frame : Json) :
    (client.receive setup.lexer frame).running = client.running := by
  obtain ⟨desktopName, hreceive⟩ := client.receive_eq setup.lexer frame
  rw [hreceive]

/-- The answer to a heartbeat is a heartbeat with a fresh id. -/
theorem dispatch_heartbeat {env : Proto.Envelope} (h : env.messageType = .deviceHeartbeat)
    (ctx : WsContext) (draws : Net.Draws) (sessions : Sessions) :
    ∃ reply, (dispatch ctx draws env sessions).1 = some reply ∧
      reply.messageType = .deviceHeartbeat ∧ reply.id = draws.freshId := by
  rw [dispatch, h]
  exact ⟨_, rfl, rfl, rfl⟩

theorem Echoed.arrive (h : s.Echoed) (draws : Net.Draws) (frame : Android.Envelope) :
    (s.arrive setup draws frame).Echoed := by
  unfold Heartbeats.arrive
  split
  · exact ⟨h.missed, h.running, h.unanswered, h.replies⟩
  · next env henv =>
    refine ⟨h.missed, h.running, h.unanswered, fun reply hreply hanswers ↦ ?_⟩
    rcases List.mem_append.mp hreply with hold | hnew
    · exact h.replies reply hold hanswers
    · obtain ⟨answer, hanswer, rfl⟩ := Option.map_eq_some_iff.mp (Option.mem_toList.mp hnew)
      have htype : env.messageType = .deviceHeartbeat := by
        by_contra hother
        simp [answers, hother] at hanswers
      obtain ⟨reply, hreply, hheartbeat, -⟩ := dispatch_heartbeat htype setup.ctx draws s.sessions
      cases hreply.symm.trans hanswer
      exact hheartbeat

/-- What the controller makes of a message of the center. -/
theorem controller_deliver (heartbeat : Option String) (env : Proto.Envelope) :
    (s.deliver setup heartbeat env).controller =
      if env.messageType.asStr = MessageType.deviceHeartbeat ∧
          s.controller.phase = .collecting env.id.toText then { phase := .resting, missed := 0 }
      else s.controller := by
  simp only [deliver, Envelope.decode_toJson, HeartbeatController.receive, HeartbeatController.echo,
    Envelope.ofRust]
  split <;> split <;> simp_all

theorem Echoed.deliver (h : s.Echoed) {heartbeat : Option String} {env : Proto.Envelope}
    (htype : heartbeat.isSome = true → env.messageType = .deviceHeartbeat)
    (hechoes : heartbeat.isSome = true → heartbeat = s.controller.round →
      s.controller.phase = .collecting env.id.toText) :
    (s.deliver setup heartbeat env).Echoed := by
  refine ⟨?_, (running_receive _ _).trans h.running, fun hround ↦ ?_, h.replies⟩
  · rw [controller_deliver]
    split
    · rfl
    · exact h.missed
  · rw [controller_deliver] at hround
    split at hround
    · cases hround
    · next hother =>
      have hnot : ¬ (heartbeat.isSome = true ∧ heartbeat = s.controller.round) := by
        rintro ⟨hsome, hcurrent⟩
        exact hother ⟨by rw [htype hsome]; rfl, hechoes hsome hcurrent⟩
      simpa [Heartbeats.deliver, h.unanswered hround] using hnot

/-- A step of the sender leaves the flag as it is. -/
theorem running_loop {client after : BridgeClient} {event : LoopEvent}
    (h : client.step setup.sha256 setup.lexer (.loop event) = some after) :
    after.running = client.running := by
  obtain ⟨loop, hjob, hmove⟩ := BridgeClient.move_of_step _ h
  exact (hmove.active hjob).1

theorem Echoed.step (h : s.Echoed) (hprompt : s.Prompt label) (hechoes : s.Echoes label)
    (hstep : s.step setup label = some next) : next.Echoed := by
  cases label with
  | connected =>
    simp only [Heartbeats.step] at hstep
    split at hstep
    · obtain ⟨controller, hcontroller, rfl⟩ := Option.map_eq_some_iff.mp hstep
      unfold HeartbeatController.connected at hcontroller
      split at hcontroller <;> cases hcontroller <;>
        exact ⟨h.missed, h.running, by simp [HeartbeatController.round], h.replies⟩
    · cases hstep
  | beat draws =>
    have hroom : s.client.outgoing.length < BridgeClient.capacity := hechoes
    simp only [Heartbeats.step] at hstep
    split at hstep
    · simp only [HeartbeatController.sendOne, BridgeClient.send, if_pos hroom] at hstep
      cases hstep
      exact ⟨h.missed, h.running, fun _ ↦ rfl, h.replies⟩
    · cases hstep
  | collect =>
    obtain ⟨controller, hcontroller, rfl⟩ := Option.map_eq_some_iff.mp hstep
    unfold HeartbeatController.collect at hcontroller
    split at hcontroller
    · next id hphase =>
      cases hcontroller
      have hround : s.controller.round.isSome = true := by simp [HeartbeatController.round, hphase]
      exact ⟨h.missed, h.running, fun _ ↦ h.unanswered hround, h.replies⟩
    · cases hcontroller
  | timeout =>
    have hanswered : s.answered = true := hprompt
    obtain ⟨result, htimeout, -⟩ := Option.map_eq_some_iff.mp hstep
    obtain ⟨id, hround, -⟩ := Option.map_eq_some_iff.mp htimeout
    rw [h.unanswered (congrArg Option.isSome hround)] at hanswered
    cases hanswered
  | rested =>
    obtain ⟨controller, hcontroller, rfl⟩ := Option.map_eq_some_iff.mp hstep
    unfold HeartbeatController.rested at hcontroller
    split at hcontroller
    · cases hcontroller
      exact ⟨h.missed, h.running, by simp [HeartbeatController.round], h.replies⟩
    · cases hcontroller
  | enqueue env =>
    cases hstep
    exact ⟨h.missed, (running_send _ _).trans h.running, h.unanswered, h.replies⟩
  | taken | transmitted =>
    obtain ⟨client, hclient, rfl⟩ := Option.map_eq_some_iff.mp hstep
    exact ⟨h.missed, (running_loop hclient).trans h.running, h.unanswered, h.replies⟩
  | arrive draws =>
    obtain ⟨frame, -, rfl⟩ := Option.map_eq_some_iff.mp hstep
    exact h.arrive draws frame
  | push env =>
    cases hstep
    refine ⟨h.missed, h.running, h.unanswered, fun reply hreply hanswers ↦ ?_⟩
    rcases List.mem_append.mp hreply with hold | hnew
    · exact h.replies reply hold hanswers
    · cases List.mem_singleton.mp hnew
      cases hanswers
  | deliver =>
    simp only [Heartbeats.step] at hstep
    split at hstep
    · next heartbeat env down hdown =>
      cases hstep
      have hrest : ({ s with down } : Heartbeats).Echoed := by
        refine ⟨h.missed, h.running, h.unanswered, fun reply hreply ↦ h.replies reply ?_⟩
        simp [hdown, hreply]
      have hhead : (heartbeat, env) ∈ s.down.head? := by simp [hdown]
      refine hrest.deliver (fun hsome ↦ h.replies (heartbeat, env) ?_ hsome)
        (hechoes (heartbeat, env) hhead)
      simp [hdown]
    · cases hstep

/-- The end of a round that is still open is a miss. -/
theorem timeout_missed (setup : EchoSetup) {id : String} (hmissed : s.controller.missed = 0)
    (hround : s.controller.round = some id) :
    ∃ after, s.step setup .timeout = some after ∧ after.controller.missed = 1 := by
  simp only [Heartbeats.step, HeartbeatController.timeout, hround, Option.map_some,
    HeartbeatController.miss, hmissed]
  exact ⟨_, rfl, rfl⟩

/-- Whatever keeps an answer from being an echo lets the round end in a miss, although the answer
has been delivered. -/
theorem missed_of_not_echoes (h : s.Echoed) (hechoes : ¬ s.Echoes label)
    (hstep : s.step setup label = some next) :
    next.controller.missed = 1 ∨ ∃ after, next.Prompt .timeout ∧
      next.step setup .timeout = some after ∧ after.controller.missed = 1 := by
  cases label with
  | beat draws =>
    have hfull : ¬ s.client.outgoing.length < BridgeClient.capacity := hechoes
    left
    simp only [Heartbeats.step] at hstep
    split at hstep
    · simp only [HeartbeatController.sendOne, BridgeClient.send, if_neg hfull,
        HeartbeatController.miss, h.missed] at hstep
      cases hstep
      rfl
    · cases hstep
  | deliver =>
    simp only [Echoes, not_forall] at hechoes
    obtain ⟨⟨heartbeat, env⟩, hhead, hsome, hcurrent, hphase⟩ := hechoes
    right
    obtain ⟨down, hdown⟩ := List.head?_eq_some_iff.mp hhead
    simp only [Heartbeats.step, hdown] at hstep
    cases hstep
    have hround : s.controller.round = heartbeat := hcurrent.symm
    obtain ⟨id, rfl⟩ := Option.isSome_iff_exists.mp hsome
    have hkept : (({ s with down } : Heartbeats).deliver setup (some id) env).controller =
        s.controller := by
      rw [controller_deliver, if_neg fun hecho ↦ hphase hecho.2]
    obtain ⟨after, hafter, hmissed⟩ := timeout_missed setup
      (hkept ▸ h.missed) (hkept ▸ hround)
    exact ⟨after, by simp [Prompt, Heartbeats.deliver, hround], hafter, hmissed⟩
  | _ => exact absurd trivial hechoes

end Steps

/-! ## Runs of one session -/

variable {setup}

/-- The phone has counted nothing yet, and nothing is in flight. -/
def start (client : BridgeClient) (sessions : Sessions) : Heartbeats := { client, sessions }

/-- When every answer is an echo, a phone whose heartbeats are answered in time never counts a miss
and is never forced to reconnect. -/
theorem heartbeats_never_miss {client : BridgeClient} {sessions : Sessions}
    {labels : List HeartbeatLabel} (hrunning : client.running = true)
    (hprompt : Run.Throughout (step setup) Prompt (start client sessions) labels)
    (hechoes : Run.Throughout (step setup) Echoes (start client sessions) labels) :
    Run.Always (step setup) NeverMisses (start client sessions) labels :=
  Run.always_of_throughout Echoed (fun _ h ↦ ⟨h.missed, h.running⟩)
    (fun _ _ _ h hguard hstep ↦ h.step hguard.1 hguard.2 hstep) (hprompt.and hechoes)
    ⟨rfl, hrunning, (fun hround ↦ nomatch hround), (fun _ hreply ↦ nomatch hreply)⟩

/-! ## One round -/

def sampleEchoSetup : EchoSetup where
  lexer := sampleLexer
  sha256 := sampleSha256
  store := sampleStore
  ctx := sampleContext

/-- A client with an open session. -/
def sampleClient : BridgeClient where
  status := .connected "10.0.0.2" 8443 ""
  running := true
  loopJob := some {
    host := "10.0.0.2"
    port := 8443
    pinnedFingerprint := none
    phase := .pumping { tls := false, lastChain := [] } }

/-- A round whose answer has this id; it is over after the answer has been delivered. -/
def sampleRound (answerId : Uuid) (last : HeartbeatLabel) : List HeartbeatLabel :=
  [.connected, .beat Android.sampleDraws, .taken, .transmitted, .collect,
    .arrive { Net.sampleDraws with freshId := answerId }, .deliver, last]

/-- A center that happens to draw the id of the heartbeat. -/
theorem sample_never_misses :
    (Run.exec (step sampleEchoSetup) (start sampleClient .empty)
      (sampleRound Android.sampleDraws.freshId .rested)).isSome = true ∧
    Run.Always (step sampleEchoSetup) NeverMisses (start sampleClient .empty)
      (sampleRound Android.sampleDraws.freshId .rested) :=
  ⟨by decide +kernel, heartbeats_never_miss rfl (by decide +kernel) (by decide +kernel)⟩

/-- An answer with an id of its own, delivered in time, is a miss. -/
theorem answered_heartbeat_is_missed : ¬ ∀ (setup : EchoSetup) (client : BridgeClient)
    (sessions : Sessions) (labels : List HeartbeatLabel), client.running = true →
    Run.Throughout (step setup) Prompt (start client sessions) labels →
    Run.Always (step setup) NeverMisses (start client sessions) labels := by
  intro h
  have hsafe := h sampleEchoSetup sampleClient .empty (sampleRound ⟨9⟩ .timeout) rfl
    (by decide +kernel)
  revert hsafe
  decide +kernel

end Heartbeats

end PhoneBridge.Interop
