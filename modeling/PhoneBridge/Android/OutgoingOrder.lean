import PhoneBridge.Android.OverlappingLoops
import PhoneBridge.Library.Conveyor

/-!
# What the sessions carry

`BridgeClient.kt`: all sessions drain one outgoing channel. Each `pumpLoop` launches a sender that
takes one envelope after the other and sends it, and cancels it when the session ends. The sender of
an old session may go on until the cancellation takes effect, which is where it has to wait, also
while a new session is open. A step is what one coroutine does between two suspension points.
-/

namespace PhoneBridge.Android

open Library Kotlinx Crypto Conveyor

/-- The coroutine that drains the outgoing channel into one session. -/
structure Sender where
  /-- the envelope that it has taken and not sent -/
  taken : Option Envelope := none
  /-- what has gone out on the session, oldest first -/
  sent : List Envelope := []
  cancelled : Bool := false
  running : Bool := true

/-- The client with its outgoing channel, and the sessions in the order of their opening. -/
structure SendingClient where
  client : OverlappedClient := {}
  outgoing : List Envelope := []
  senders : KeyMap Nat Sender := .empty
  sessions : Nat := 0
  /-- the newest session of each loop -/
  sessionOf : KeyMap Nat Nat := .empty
  /-- what `send` has accepted, oldest first -/
  accepted : List Envelope := []
  /-- what the senders have taken, oldest first -/
  takings : List (Nat × Envelope) := []

inductive SendingLabel
  /-- a call, or a step of a reconnect loop -/
  | loop (label : OverlapLabel)
  | send (env : Envelope)
  /-- the sender of a session takes an envelope -/
  | take (session : Nat)
  | transmit (session : Nat)
  /-- the sender ends: its cancellation takes effect, or the session refuses the envelope -/
  | senderEnds (session : Nat)

namespace SendingClient

/-- `pumpLoop` launches the sender of its session. -/
def launchSender (s : SendingClient) (id : Nat) : SendingClient :=
  { s with
    senders := s.senders.insert s.sessions {}
    sessions := s.sessions + 1
    sessionOf := s.sessionOf.insert id s.sessions }

/-- The `finally` of `pumpLoop`. -/
def cancelSender (s : SendingClient) (id : Nat) : SendingClient :=
  match s.sessionOf.get id with
  | none => s
  | some session =>
    match s.senders.get session with
    | none => s
    | some sender =>
      { s with senders := s.senders.insert session { sender with cancelled := true } }

/-- Is the loop in `pumpLoop`? -/
def pumping (client : OverlappedClient) (id : Nat) : Bool :=
  ((openSessions client.jobs).get id).isSome

/-- A loop that opens a session launches a sender, and one that leaves its session cancels it. -/
def followLoop (s : SendingClient) (before : OverlappedClient) : OverlapLabel → SendingClient
  | .dialed id _ => if pumping s.client id then s.launchSender id else s
  | .sessionEnded id _ => if pumping before id then s.cancelSender id else s
  | _ => s

def send (s : SendingClient) (env : Envelope) : SendingClient :=
  if s.outgoing.length < BridgeClient.capacity then
    { s with outgoing := s.outgoing ++ [env], accepted := s.accepted ++ [env] }
  else s

def take (s : SendingClient) (session : Nat) : Option SendingClient :=
  (s.senders.get session).bind fun sender ↦
    match s.outgoing with
    | [] => none
    | env :: outgoing =>
      -- also when it is cancelled: there is nothing to wait for
      if sender.running = true ∧ sender.taken = none then
        some { s with
          outgoing
          senders := s.senders.insert session { sender with taken := some env }
          takings := s.takings ++ [(session, env)] }
      else none

def transmit (s : SendingClient) (session : Nat) : Option SendingClient :=
  (s.senders.get session).bind fun sender ↦
    if sender.running then
      sender.taken.map fun env ↦
        { s with
          senders :=
            s.senders.insert session { sender with taken := none, sent := sender.sent ++ [env] } }
    else none

def senderEnds (s : SendingClient) (session : Nat) : Option SendingClient :=
  (s.senders.get session).bind fun sender ↦
    if sender.cancelled = true ∨ sender.taken.isSome = true then
      some { s with
        senders := s.senders.insert session { sender with taken := none, running := false } }
    else none

variable (sha256 : List UInt8 → Digest) (lexer : Lexer)

def step (s : SendingClient) : SendingLabel → Option SendingClient
  | .loop label =>
    (s.client.step sha256 lexer label).map fun client ↦
      { s with client }.followLoop s.client label
  | .send env => some (s.send env)
  | .take session => s.take session
  | .transmit session => s.transmit session
  | .senderEnds session => s.senderEnds session

end SendingClient

/-! ## One session -/

/-- The sender sends what it takes, in that order, and can lose no more than the last envelope. -/
structure Sender.Delivers (taken : List Envelope) (sender : Sender) : Prop where
  conveys : Conveys (sender.running = true) taken sender.sent sender.taken.toList
  lost : taken.length ≤ sender.sent.length + 1

theorem Sender.Delivers.of_running {taken : List Envelope} {sender : Sender}
    (h : Conveys (sender.running = true) taken sender.sent sender.taken.toList)
    (hrunning : sender.running = true) : sender.Delivers taken where
  conveys := h
  lost := by
    have hall := congrArg List.length (h.complete hrunning)
    have hone : sender.taken.toList.length ≤ 1 := by cases sender.taken <;> simp
    rw [List.length_append] at hall
    omega

namespace SendingClient

/-- Every accepted envelope is in the channel or has been taken by one session, which delivers what
it has taken. -/
structure Inv (s : SendingClient) : Prop where
  accounted : s.accepted = s.takings.map Prod.snd ++ s.outgoing
  delivers : ∀ session sender, s.senders.get session = some sender →
    sender.Delivers (lane s.takings session)
  unopened : ∀ session, s.sessions ≤ session → s.senders.get session = none
  opened : ∀ entry ∈ s.takings, entry.1 < s.sessions

variable {s t : SendingClient} {session : Nat}

theorem inv_start : Inv {} where
  accounted := rfl
  delivers _ _ h := by cases h
  unopened _ _ := rfl
  opened _ h := by cases h

/-- A sender that exists has a number below that of the next session. -/
theorem Inv.lt_sessions (hs : s.Inv) {sender : Sender} (h : s.senders.get session = some sender) :
    session < s.sessions := by
  by_contra hge
  rw [hs.unopened session (Nat.le_of_not_lt hge)] at h
  cases h

theorem Inv.unopened_insert (hs : s.Inv) {sender : Sender}
    (h : s.senders.get session = some sender) (sender' : Sender) (other : Nat)
    (hother : s.sessions ≤ other) : (s.senders.insert session sender').get other = none := by
  have hne : other ≠ session := (Nat.lt_of_lt_of_le (hs.lt_sessions h) hother).ne'
  exact (KeyMap.get_insert_of_ne _ _ hne).trans (hs.unopened other hother)

/-- One sender changes, and nothing is taken. -/
theorem Inv.setSender (hs : s.Inv) {sender sender' : Sender}
    (h : s.senders.get session = some sender)
    (hdelivers : sender'.Delivers (lane s.takings session)) :
    Inv { s with senders := s.senders.insert session sender' } where
  accounted := hs.accounted
  delivers other sender hget := by
    rcases KeyMap.get_insert_eq_some.mp hget with ⟨rfl, rfl⟩ | ⟨-, hold⟩
    · exact hdelivers
    · exact hs.delivers other sender hold
  unopened := hs.unopened_insert h sender'
  opened := hs.opened

theorem inv_launchSender (hs : s.Inv) (id : Nat) : (s.launchSender id).Inv where
  accounted := hs.accounted
  delivers session sender hget := by
    rcases KeyMap.get_insert_eq_some.mp hget with ⟨rfl, rfl⟩ | ⟨-, hold⟩
    · have hfresh : s.sessions ∉ s.takings.map Prod.fst := by
        intro hmem
        obtain ⟨entry, hentry, hsame⟩ := List.mem_map.mp hmem
        exact absurd hsame (hs.opened entry hentry).ne
      have hlane : lane s.takings s.sessions = [] := lane_eq_nil hfresh
      change Sender.Delivers (lane s.takings s.sessions) {}
      rw [hlane]
      exact ⟨.start _, Nat.zero_le _⟩
    · exact hs.delivers session sender hold
  unopened session hsession := by
    have hne : session ≠ s.sessions := (Nat.lt_of_succ_le hsession).ne'
    exact (KeyMap.get_insert_of_ne _ _ hne).trans
      (hs.unopened session (Nat.le_of_succ_le hsession))
  opened entry hentry := Nat.lt_succ_of_lt (hs.opened entry hentry)

theorem inv_cancelSender (hs : s.Inv) (id : Nat) : (s.cancelSender id).Inv := by
  unfold cancelSender
  cases s.sessionOf.get id with
  | none => exact hs
  | some session =>
    cases hsender : s.senders.get session with
    | none => simpa only [hsender] using hs
    | some sender =>
      have hold := hs.delivers session sender hsender
      simp only [hsender]
      exact hs.setSender hsender ⟨hold.conveys, hold.lost⟩

theorem inv_client (hs : s.Inv) (client : OverlappedClient) : Inv { s with client } :=
  ⟨hs.accounted, hs.delivers, hs.unopened, hs.opened⟩

theorem inv_followLoop (hs : s.Inv) (before : OverlappedClient) (label : OverlapLabel) :
    (s.followLoop before label).Inv := by
  unfold followLoop
  split
  · split_ifs
    · exact inv_launchSender hs _
    · exact hs
  · split_ifs
    · exact inv_cancelSender hs _
    · exact hs
  · exact hs

theorem inv_send (hs : s.Inv) (env : Envelope) : (s.send env).Inv := by
  unfold send
  split_ifs
  · refine ⟨?_, hs.delivers, hs.unopened, hs.opened⟩
    rw [hs.accounted, List.append_assoc]
  · exact hs

theorem inv_take (hs : s.Inv) (h : s.take session = some t) : t.Inv := by
  obtain ⟨sender, hsender, h⟩ := Option.bind_eq_some_iff.mp h
  split at h
  · cases h
  · next env outgoing houtgoing =>
    obtain ⟨⟨hrunning, hfree⟩, ht⟩ := Option.ite_none_right_eq_some.mp h
    cases ht
    have hlt := hs.lt_sessions hsender
    have hconveys := (hs.delivers session sender hsender).conveys
    exact {
      accounted := by
        rw [hs.accounted, houtgoing, List.map_append, List.append_assoc]
        rfl
      delivers := by
        intro other sender' hget
        rcases KeyMap.get_insert_eq_some.mp hget with ⟨rfl, rfl⟩ | ⟨hne, hold⟩
        · have hentered := hconveys.enter hrunning env
          rw [hfree] at hentered
          refine .of_running ?_ hrunning
          rw [lane_snoc_self]
          exact hentered
        · rw [lane_snoc_of_ne hne]
          exact hs.delivers other sender' hold
      unopened := hs.unopened_insert hsender _
      opened := by
        intro entry hentry
        rcases List.mem_append.mp hentry with hold | hnew
        · exact hs.opened entry hold
        · rw [List.mem_singleton.mp hnew]
          exact hlt }

theorem inv_transmit (hs : s.Inv) (h : s.transmit session = some t) : t.Inv := by
  obtain ⟨sender, hsender, h⟩ := Option.bind_eq_some_iff.mp h
  obtain ⟨hrunning, h⟩ := Option.ite_none_right_eq_some.mp h
  obtain ⟨env, htaken, rfl⟩ := Option.map_eq_some_iff.mp h
  have hconveys := (hs.delivers session sender hsender).conveys
  refine hs.setSender hsender (.of_running (hconveys.move ?_) hrunning)
  rw [htaken]
  exact List.append_nil _

theorem inv_senderEnds (hs : s.Inv) (h : s.senderEnds session = some t) : t.Inv := by
  obtain ⟨sender, hsender, h⟩ := Option.bind_eq_some_iff.mp h
  obtain ⟨-, ht⟩ := Option.ite_none_right_eq_some.mp h
  cases ht
  have hold := hs.delivers session sender hsender
  exact hs.setSender hsender ⟨hold.conveys.drop Bool.false_ne_true List.nil_prefix, hold.lost⟩

variable {sha256 : List UInt8 → Digest} {lexer : Lexer}

theorem inv_step {label : SendingLabel} (hs : s.Inv) (h : s.step sha256 lexer label = some t) :
    t.Inv := by
  cases label with
  | loop label =>
    obtain ⟨client, -, rfl⟩ := Option.map_eq_some_iff.mp h
    exact inv_followLoop (inv_client hs client) s.client label
  | send env =>
    cases h
    exact inv_send hs env
  | take session => exact inv_take hs h
  | transmit session => exact inv_transmit hs h
  | senderEnds session => exact inv_senderEnds hs h

/-- Each accepted envelope is waiting, or one session has taken it. A session sends what it has
taken, in that order, and can lose only the last of it. -/
structure SentOnce (s : SendingClient) : Prop where
  accounted : s.accepted = s.takings.map Prod.snd ++ s.outgoing
  inOrder : ∀ session sender, s.senders.get session = some sender →
    sender.sent <+: lane s.takings session ∧
      (lane s.takings session).length ≤ sender.sent.length + 1
  /-- no envelope goes out twice, on one session or on two -/
  once : (s.accepted.map Envelope.id).Nodup → ∀ session session' sender sender',
    s.senders.get session = some sender → s.senders.get session' = some sender' →
      (sender.sent.map Envelope.id).Nodup ∧ ∀ env ∈ sender.sent, ∀ env' ∈ sender'.sent,
        env.id = env'.id → session = session'

theorem Inv.sentOnce (hs : s.Inv) : s.SentOnce where
  accounted := hs.accounted
  inOrder session sender hsender :=
    ⟨(hs.delivers session sender hsender).conveys.left_prefix,
      (hs.delivers session sender hsender).lost⟩
  once hdistinct session session' sender sender' hsender hsender' := by
    have hsent := (hs.delivers session sender hsender).conveys.left_prefix
    have hsent' := (hs.delivers session' sender' hsender').conveys.left_prefix
    have htakings : (s.takings.map fun entry ↦ entry.2.id).Nodup := by
      rw [hs.accounted, List.map_append, List.map_map] at hdistinct
      exact hdistinct.of_append_left
    constructor
    · have hlane := (hsent.sublist.trans (lane_sublist s.takings session)).map Envelope.id
      rw [List.map_map] at hlane
      exact htakings.sublist hlane
    · intro env henv env' henv' hid
      exact eq_of_mem_lanes htakings (hsent.subset henv) (hsent'.subset henv') hid

/-- However the loops of the client overlap, the sessions together carry each accepted envelope at
most once, each session in the order in which they were accepted. -/
theorem sessions_carry_envelopes_once (sha256 : List UInt8 → Digest) (lexer : Lexer)
    (labels : List SendingLabel) (t : SendingClient)
    (hrun : Run.exec (step sha256 lexer) {} labels = some t) : t.SentOnce :=
  (Run.invariant Inv (fun _ _ _ ↦ inv_step) hrun inv_start).sentOnce

def sampleHeartbeat (id : String) : Envelope where
  id := id
  ts := 0
  type := MessageType.deviceHeartbeat
  deviceId := ""
  payload := .null

/-- An old session sends its envelope when the next one is already open. -/
def twoSessions : List SendingLabel :=
  [.loop (.start "10.0.0.2" 8443 none), .loop (.begins 0), .loop (.dialed 0 (.upgraded [])),
    .send (sampleHeartbeat "a"), .send (sampleHeartbeat "b"), .take 0, .loop .stop,
    .loop (.start "10.0.0.3" 8443 none), .loop (.begins 1), .loop (.dialed 1 (.upgraded [])),
    .take 1, .transmit 1, .transmit 0, .loop (.sessionEnded 0 none), .senderEnds 0]

theorem sessions_carry_envelopes_once_sample : ∃ t,
    Run.exec (step sampleSha256 sampleLexer) {} twoSessions = some t ∧
      (t.senders.get 0).map Sender.sent = some [sampleHeartbeat "a"] ∧
      (t.senders.get 1).map Sender.sent = some [sampleHeartbeat "b"] ∧ t.SentOnce := by
  have hrun : ∃ t, Run.exec (step sampleSha256 sampleLexer) {} twoSessions = some t ∧
      (t.senders.get 0).map Sender.sent = some [sampleHeartbeat "a"] ∧
      (t.senders.get 1).map Sender.sent = some [sampleHeartbeat "b"] :=
    ⟨_, rfl, rfl, rfl⟩
  obtain ⟨t, hexec, hfirst, hsecond⟩ := hrun
  exact ⟨t, hexec, hfirst, hsecond,
    sessions_carry_envelopes_once sampleSha256 sampleLexer twoSessions t hexec⟩

end SendingClient

end PhoneBridge.Android
