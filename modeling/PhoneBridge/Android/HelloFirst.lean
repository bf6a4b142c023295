import PhoneBridge.Android.SendingService

/-!
# Hello comes first

The channel of outgoing envelopes outlives the sessions, and the sender of a session drains it from
the moment the session is open, beside the senders of earlier sessions that have not ended; the hello
is queued later, by the collector of the status. The first envelope of every session is a hello as
long as the channel is empty or led by a hello when a session opens, and stays so until the session
has its first envelope.
-/

namespace PhoneBridge.Android

open Library Kotlinx Crypto

/-- The first envelope is a hello, if there is one. -/
def LedByHello (envelopes : List Envelope) : Prop :=
  ∀ first ∈ envelopes.head?, first.type = MessageType.deviceHello

instance (envelopes : List Envelope) : Decidable (LedByHello envelopes) := by
  unfold LedByHello
  infer_instance

/-- What the sender has taken, in the order in which it goes out. -/
def Sender.line (sender : Sender) : List Envelope := sender.sent ++ sender.taken.toList

/-- Nothing has gone out on the session or is about to, and its sender can still take something. -/
def Sender.isFresh (sender : Sender) : Bool :=
  sender.running && sender.sent.isEmpty && sender.taken.isNone

/-- The session still waits for its first envelope. -/
def SendingClient.isFresh (s : SendingClient) (session : Nat) : Bool :=
  (s.senders.get session).any Sender.isFresh

namespace SendingService

variable (platform : Platform) (s : SendingService) (label : SendingServiceLabel)

/-- The first envelope that each session has sent is a hello. -/
def HelloFirst : Prop :=
  ∀ session < s.client.sessions, ∀ sender ∈ s.client.senders.get session, LedByHello sender.sent

instance : Decidable s.HelloFirst := by
  unfold HelloFirst
  infer_instance

/-- Does the step open a session? -/
def opens : Bool :=
  match label with
  | .client (.loop (.dialed id answer)) =>
    (s.client.client.jobs.get id).any fun job ↦ (job.loop.dial platform.sha256 answer).isOk
  | _ => false

/-- The envelope that a step puts on the channel. -/
def produced : Option Envelope :=
  match label with
  | .client (.send env) => some env
  | .connectedBlock draws => some (s.hello platform draws)
  | .handleIncoming draws => s.inbox.head?.bind fun env ↦
    (s.pairing.handleIncoming platform.jce platform.lexer platform.store draws env).1
  | .initiate draws => (s.pairing.initiate platform.store draws).1
  | .userAccepts draws => (s.pairing.userAccepts platform.store draws).1
  | .userRejects draws reason => (s.pairing.userRejects platform.store draws reason).1
  | .client _ | .setDesktop .. | .emitted _ | .collectStatus => none

/-- The session whose sender takes an envelope. -/
def takes : Option Nat :=
  match label with
  | .client (.take session) => some session
  | _ => none

/-- The step leaves the channel to a hello for a session that waits for its first envelope: only a
hello enters the empty channel, and what the sender of another session leaves is led by a hello. -/
def LeavesHello (session : Nat) : Prop :=
  (s.client.outgoing = [] → LedByHello (s.produced platform label).toList) ∧
    ∀ other ∈ takes label, other ≠ session → LedByHello s.client.outgoing.tail

instance (session : Nat) : Decidable (s.LeavesHello platform label session) := by
  unfold LeavesHello
  infer_instance

/-- A session opens on an empty channel or one that is led by a hello, and the channel is left so
to the sessions that wait for their first envelope. -/
def HelloLeads : Prop :=
  (s.opens platform label = true → LedByHello s.client.outgoing) ∧
    ∀ session < s.client.sessions, s.client.isFresh session = true →
      s.LeavesHello platform label session

instance : Decidable (s.HelloLeads platform label) := by
  unfold HelloLeads
  infer_instance

end SendingService

/-! ## What the senders take -/

section Lists

variable {front : List Envelope}

theorem ledByHello_nil : LedByHello [] := by
  intro first hfirst
  cases hfirst

theorem ledByHello_singleton {env : Envelope} :
    LedByHello [env] ↔ env.type = MessageType.deviceHello := by
  simp [LedByHello]

theorem LedByHello.append (h : LedByHello front) (back : List Envelope)
    (hback : front = [] → LedByHello back) : LedByHello (front ++ back) := by
  cases front with
  | nil => exact hback rfl
  | cons first front => exact h

theorem LedByHello.of_append {back : List Envelope} (h : LedByHello (front ++ back)) :
    LedByHello front := by
  cases front with
  | nil => exact ledByHello_nil
  | cons first front => exact h

end Lists

/-- What each session has sent and is about to send is led by a hello, and so is the channel as long
as a session waits for its first envelope. -/
structure Leads (senders : KeyMap Nat Sender) (outgoing : List Envelope) : Prop where
  line : ∀ session sender, senders.get session = some sender → LedByHello sender.line
  next : ∀ session sender, senders.get session = some sender → sender.isFresh = true →
    LedByHello outgoing

section Senders

variable {senders : KeyMap Nat Sender} {outgoing : List Envelope} {session : Nat}
  {sender sender' : Sender}

theorem Sender.isFresh_iff :
    sender.isFresh = true ↔ sender.running = true ∧ sender.sent = [] ∧ sender.taken = none := by
  simp [isFresh, and_assoc]

/-- A sender changes. -/
theorem Leads.setSender (h : Leads senders outgoing) (hline : LedByHello sender'.line)
    (hfresh : sender'.isFresh = true → LedByHello outgoing) :
    Leads (senders.insert session sender') outgoing where
  line other found hget := by
    rcases KeyMap.get_insert_eq_some.mp hget with ⟨-, rfl⟩ | ⟨-, hold⟩
    · exact hline
    · exact h.line other found hold
  next other found hget := by
    rcases KeyMap.get_insert_eq_some.mp hget with ⟨-, rfl⟩ | ⟨-, hold⟩
    · exact hfresh
    · exact h.next other found hold

/-- An envelope that joins the channel leads it only when the channel was empty. -/
theorem Leads.send (h : Leads senders outgoing) {env : Envelope}
    (henv : ∀ session sender, senders.get session = some sender → sender.isFresh = true →
      outgoing = [] → env.type = MessageType.deviceHello) :
    Leads senders (outgoing ++ [env]) where
  line := h.line
  next session sender hget hfresh := by
    refine (h.next session sender hget hfresh).append [env] fun hempty ↦ ?_
    exact ledByHello_singleton.mpr (henv session sender hget hfresh hempty)

/-- A fresh session takes the hello at the head of the channel; the others wait for what is left. -/
theorem Leads.take {env : Envelope} (h : Leads senders (env :: outgoing))
    (hget : senders.get session = some sender) (hrunning : sender.running = true)
    (hfree : sender.taken = none)
    (hleft : ∀ other found, other ≠ session → senders.get other = some found →
      found.isFresh = true → LedByHello outgoing) :
    Leads (senders.insert session { sender with taken := some env }) outgoing where
  line other found hother := by
    rcases KeyMap.get_insert_eq_some.mp hother with ⟨-, rfl⟩ | ⟨-, hold⟩
    · have hsent : LedByHello sender.sent := (h.line session sender hget).of_append
      refine hsent.append [env] fun hempty ↦ ?_
      exact h.next session sender hget (Sender.isFresh_iff.mpr ⟨hrunning, hempty, hfree⟩)
    · exact h.line other found hold
  next other found hother hfresh := by
    rcases KeyMap.get_insert_eq_some.mp hother with ⟨-, rfl⟩ | ⟨hne, hold⟩
    · cases (Sender.isFresh_iff.mp hfresh).2.2
    · exact hleft other found hne hold hfresh

/-- What is sent was next in the line. -/
theorem Leads.transmit (h : Leads senders outgoing) {env : Envelope}
    (hget : senders.get session = some sender) (htaken : sender.taken = some env) :
    Leads
      (senders.insert session { sender with taken := none, sent := sender.sent ++ [env] })
      outgoing := by
  apply h.setSender
  · simpa [Sender.line, htaken] using h.line session sender hget
  · intro hfresh
    have hsent := (Sender.isFresh_iff.mp hfresh).2.1
    simp at hsent

end Senders

/-! ## The steps of the client -/

namespace SendingClient

variable {sha256 : List UInt8 → Digest} {lexer : Lexer} {s t : SendingClient} {session : Nat}

/-- What each session of the client has sent and will send is led by a hello. -/
def Leads (s : SendingClient) : Prop := Android.Leads s.senders s.outgoing

theorem leads_take (h : s.Leads) (htake : s.take session = some t)
    (hleft : ∀ other found, other ≠ session → s.senders.get other = some found →
      found.isFresh = true → LedByHello s.outgoing.tail) : t.Leads := by
  obtain ⟨sender, hsender, htake⟩ := Option.bind_eq_some_iff.mp htake
  split at htake
  · cases htake
  · next env outgoing houtgoing =>
    obtain ⟨⟨hrunning, hfree⟩, ht⟩ := Option.ite_none_right_eq_some.mp htake
    cases ht
    rw [Leads, houtgoing] at h
    rw [houtgoing] at hleft
    exact h.take hsender hrunning hfree hleft

theorem leads_transmit (h : s.Leads) (htransmit : s.transmit session = some t) : t.Leads := by
  obtain ⟨sender, hsender, htransmit⟩ := Option.bind_eq_some_iff.mp htransmit
  obtain ⟨-, htransmit⟩ := Option.ite_none_right_eq_some.mp htransmit
  obtain ⟨env, htaken, rfl⟩ := Option.map_eq_some_iff.mp htransmit
  exact Android.Leads.transmit h hsender htaken

theorem leads_senderEnds (h : s.Leads) (hends : s.senderEnds session = some t) : t.Leads := by
  obtain ⟨sender, hsender, hends⟩ := Option.bind_eq_some_iff.mp hends
  obtain ⟨-, ht⟩ := Option.ite_none_right_eq_some.mp hends
  cases ht
  apply Android.Leads.setSender h
  · have hsent : LedByHello sender.sent := (h.line session sender hsender).of_append
    simpa [Sender.line] using hsent
  · intro hfresh
    cases (Sender.isFresh_iff.mp hfresh).1

theorem leads_send (h : s.Leads) {env : Envelope}
    (henv : ∀ session sender, s.senders.get session = some sender → sender.isFresh = true →
      s.outgoing = [] → env.type = MessageType.deviceHello) : (s.send env).Leads := by
  unfold send
  split_ifs
  · exact Android.Leads.send h henv
  · exact h

theorem leads_cancelSender (h : s.Leads) (id : Nat) : (s.cancelSender id).Leads := by
  unfold cancelSender
  cases s.sessionOf.get id with
  | none => exact h
  | some session =>
    cases hsender : s.senders.get session with
    | none => simpa only [hsender] using h
    | some sender =>
      simp only [hsender]
      exact Android.Leads.setSender h (h.line session sender hsender)
        (h.next session sender hsender)

/-- The new session has the channel before it. -/
theorem leads_launchSender (h : s.Leads) (houtgoing : LedByHello s.outgoing) (id : Nat) :
    (s.launchSender id).Leads :=
  Android.Leads.setSender h ledByHello_nil fun _ ↦ houtgoing

/-- A loop is in `pumpLoop` after a dial only when the dial has opened a session. -/
theorem dial_of_pumping {client next : OverlappedClient} {id : Nat} {answer : Answer}
    (hstep : client.step sha256 lexer (.dialed id answer) = some next)
    (hpumping : pumping next id = true) :
    ((client.jobs.get id).any fun job ↦ (job.loop.dial sha256 answer).isOk) = true := by
  obtain ⟨job, hjob, hadvance⟩ := Option.bind_eq_some_iff.mp hstep
  simp only [OverlappedClient.advance] at hadvance
  split at hadvance
  · split at hadvance
    · next message hdial =>
      cases hadvance
      obtain ⟨status, -, hpublished⟩ := client.published_caught id job message
      have hsessions := congrArg Published.sessions hpublished
      change openSessions _ = _ at hsessions
      rw [pumping, hsessions, KeyMap.get_remove_self] at hpumping
      cases hpumping
    · next session hdial =>
      rw [hjob]
      simp [hdial, Except.isOk, Except.toBool]
  · cases hadvance

theorem leads_loop (h : s.Leads) {label : OverlapLabel}
    (hopens : ∀ id answer, label = .dialed id answer →
      ((s.client.jobs.get id).any fun job ↦ (job.loop.dial sha256 answer).isOk) = true →
        LedByHello s.outgoing)
    (hstep : s.step sha256 lexer (.loop label) = some t) : t.Leads := by
  obtain ⟨client, hclient, rfl⟩ := Option.map_eq_some_iff.mp hstep
  have hkept : ({ s with client } : SendingClient).Leads := h
  unfold followLoop
  split
  · next id answer =>
    split
    · next hpumping =>
      exact leads_launchSender hkept (hopens id answer rfl (dial_of_pumping hclient hpumping)) id
    · exact hkept
  · split
    · exact leads_cancelSender hkept _
    · exact hkept
  · exact hkept

end SendingClient

/-! ## Runs of the service -/

namespace SendingService

variable {platform : Platform} {s next : SendingService} {label : SendingServiceLabel}

/-- Every session of the service is led by a hello; its sessions are numbered from zero. -/
structure Led (s : SendingService) : Prop where
  inv : s.client.Inv
  leads : s.client.Leads

theorem Led.send (h : s.Led) {env : Envelope}
    (henv : ∀ session sender, s.client.senders.get session = some sender →
      sender.isFresh = true → s.client.outgoing = [] → env.type = MessageType.deviceHello) :
    (s.send env).Led :=
  ⟨SendingClient.inv_send h.inv env, SendingClient.leads_send h.leads henv⟩

theorem Led.apply (h : s.Led) {result : Option Envelope × PairingMachine}
    (hresult : ∀ session sender, s.client.senders.get session = some sender →
      sender.isFresh = true → s.client.outgoing = [] → LedByHello result.1.toList) :
    (s.apply result).Led := by
  have hpairing : ({ s with pairing := result.2 } : SendingService).Led := ⟨h.inv, h.leads⟩
  unfold SendingService.apply
  split
  · next env henv =>
    refine hpairing.send fun session sender hsender hfresh hempty ↦ ?_
    have hled := hresult session sender hsender hfresh hempty
    rw [henv] at hled
    exact ledByHello_singleton.mp hled
  · exact hpairing

theorem Led.kickoff (h : s.Led) (seen : Combined) :
    ({ s with
      combined := seen
      client := seen.kickoff SendingClient.start s.client } : SendingService).Led := by
  have hsame : (seen.kickoff SendingClient.start s.client).Inv ∧
      (seen.kickoff SendingClient.start s.client).Leads := by
    unfold Combined.kickoff
    split
    · split
      · exact ⟨h.inv, h.leads⟩
      · split
        · exact ⟨SendingClient.inv_client h.inv _, h.leads⟩
        · exact ⟨h.inv, h.leads⟩
    · exact ⟨h.inv, h.leads⟩
  exact ⟨hsame.1, hsame.2⟩

/-- The condition on a step, for a sender that still waits for its first envelope. -/
theorem Led.leavesHello (h : s.Led) (hleads : s.HelloLeads platform label) {session : Nat}
    {sender : Sender} (hsender : s.client.senders.get session = some sender)
    (hfresh : sender.isFresh = true) : s.LeavesHello platform label session := by
  apply hleads.2 session (h.inv.lt_sessions hsender)
  rw [SendingClient.isFresh, hsender]
  exact hfresh

theorem Led.client (h : s.Led) {label : SendingLabel}
    (hleads : s.HelloLeads platform (.client label)) {client : SendingClient}
    (hclient : s.client.step platform.sha256 platform.lexer label = some client) :
    client.Leads := by
  cases label with
  | loop label =>
    refine SendingClient.leads_loop h.leads ?_ hclient
    rintro id answer rfl hdial
    exact hleads.1 hdial
  | send env =>
    cases hclient
    refine SendingClient.leads_send h.leads fun session sender hsender hfresh hempty ↦ ?_
    exact ledByHello_singleton.mp ((h.leavesHello hleads hsender hfresh).1 hempty)
  | take session =>
    refine SendingClient.leads_take h.leads hclient fun other found hne hfound hfresh ↦ ?_
    exact (h.leavesHello hleads hfound hfresh).2 session rfl hne.symm
  | transmit session => exact SendingClient.leads_transmit h.leads hclient
  | senderEnds session => exact SendingClient.leads_senderEnds h.leads hclient

theorem client_of_step {label : SendingLabel}
    (hstep : s.step platform (.client label) = some next) :
    ∃ client, s.client.step platform.sha256 platform.lexer label = some client ∧
      { s with client, inbox := s.inbox ++ (label.emitted platform.lexer).toList } = next := by
  cases label with
  | loop label =>
    cases label with
    | start => cases hstep
    | _ => exact Option.map_eq_some_iff.mp hstep
  | _ => exact Option.map_eq_some_iff.mp hstep

theorem led_step (h : s.Led) (hleads : s.HelloLeads platform label)
    (hstep : s.step platform label = some next) : next.Led := by
  have hproduced : ∀ session sender, s.client.senders.get session = some sender →
      sender.isFresh = true → s.client.outgoing = [] →
        LedByHello (s.produced platform label).toList :=
    fun _ _ hsender hfresh hempty ↦ (h.leavesHello hleads hsender hfresh).1 hempty
  cases label with
  | client label =>
    obtain ⟨client, hclient, rfl⟩ := client_of_step hstep
    exact ⟨SendingClient.inv_step h.inv hclient, h.client hleads hclient⟩
  | setDesktop | collectStatus =>
    cases hstep
    exact ⟨h.inv, h.leads⟩
  | emitted field =>
    cases hstep
    exact h.kickoff _
  | connectedBlock draws =>
    simp only [step] at hstep
    split at hstep
    · cases hstep
      have hsent : (s.send (s.hello platform draws)).Led := h.send fun _ _ _ _ _ ↦ rfl
      exact ⟨hsent.inv, hsent.leads⟩
    · cases hstep
  | handleIncoming draws =>
    simp only [step] at hstep
    split at hstep
    · cases hstep
    · next env inbox hinbox =>
      cases hstep
      have hkept : ({ s with inbox } : SendingService).Led := ⟨h.inv, h.leads⟩
      refine hkept.apply fun session sender hsender hfresh hempty ↦ ?_
      simpa [produced, hinbox] using hproduced session sender hsender hfresh hempty
  | initiate | userAccepts | userRejects =>
    cases hstep
    exact h.apply hproduced

/-- The first envelope of every session is a hello in every run in which sessions open on a channel
that is empty or led by a hello, and the channel stays so until they have their first envelope. -/
theorem hello_comes_first {prefs : Prefs} {pairing : PairingMachine}
    {labels : List SendingServiceLabel}
    (hleads : Run.Throughout (step platform) (HelloLeads platform) (started prefs pairing) labels) :
    Run.Always (step platform) HelloFirst (started prefs pairing) labels := by
  refine Run.always_of_throughout Led ?_ (fun _ _ _ ↦ led_step) hleads ?_
  · intro s h session _ sender hsender
    exact (h.leads.line session sender hsender).of_append
  · constructor
    · exact SendingClient.inv_start
    · constructor
      · intro _ _ hsender
        cases hsender
      · intro _ _ hsender
        cases hsender

/-! ## Two sessions -/

def samplePrefs : Prefs where
  desktopHost := some "10.0.0.2"
  desktopPort := some "8443"

/-- A notification of the listener service. -/
def sampleNotification : Envelope where
  id := Uuid.toText ⟨2⟩
  ts := 1000
  type := "notification.received"
  deviceId := sampleStore.deviceId
  payload := .null

/-- The first session opens, and the hello goes out on it. -/
def sampleGreeting : List SendingServiceLabel :=
  [.emitted .host, .emitted .port, .emitted .fingerprint, .client (.loop (.begins 0)),
    .client (.loop (.dialed 0 (.upgraded []))), .collectStatus, .connectedBlock sampleDraws,
    .client (.take 0), .client (.transmit 0)]

/-- The client is told to reconnect. The old session ends and its sender with it, a second one opens,
and a hello and a notification go out on it. -/
def sampleReconnect : List SendingServiceLabel :=
  sampleGreeting ++ [.client (.loop .forceReconnect),
    .client (.loop (.sessionEnded 0 (some "Job was cancelled"))), .client (.senderEnds 0),
    .emitted .host, .client (.loop (.begins 1)), .client (.loop (.dialed 1 (.upgraded []))),
    .collectStatus, .connectedBlock sampleDraws, .client (.send sampleNotification),
    .client (.take 1), .client (.transmit 1), .client (.take 1), .client (.transmit 1)]

/-- The types of what a session has sent. -/
def sentTypes (s : SendingService) (session : Nat) : Option (List String) :=
  (s.client.senders.get session).map fun sender ↦ sender.sent.map Envelope.type

theorem sample_hello_first :
    ((Run.exec (step samplePlatform) (started samplePrefs {}) sampleReconnect).map fun s ↦
      (s.sentTypes 0, s.sentTypes 1)) =
        some (some ["device.hello"], some ["device.hello", "notification.received"]) ∧
    Run.Always (step samplePlatform) HelloFirst (started samplePrefs {}) sampleReconnect :=
  ⟨by decide +kernel, hello_comes_first (by decide +kernel)⟩

/-- The session ends, a notification is queued, and the phone dials again. -/
def sampleQueued : List SendingServiceLabel :=
  sampleGreeting ++ [.client (.loop (.sessionEnded 0 none)), .client (.senderEnds 0),
    .client (.send sampleNotification), .client (.loop (.delayEnded 0)),
    .client (.loop (.dialed 0 (.upgraded []))), .client (.take 1), .client (.transmit 1)]

/-- The second session opens beside the sender of the first, which takes its hello. -/
def sampleOvertaken : List SendingServiceLabel :=
  sampleGreeting ++ [.client (.loop .forceReconnect), .emitted .host, .client (.loop (.begins 1)),
    .client (.loop (.dialed 1 (.upgraded []))), .collectStatus, .connectedBlock sampleDraws,
    .client (.send sampleNotification), .client (.take 0), .client (.take 1), .client (.transmit 1)]

/-- In both runs the notification goes out first on the second session. -/
theorem notification_precedes_hello :
    ¬ Run.Always (step samplePlatform) HelloFirst (started samplePrefs {}) sampleQueued ∧
      ¬ Run.Always (step samplePlatform) HelloFirst (started samplePrefs {}) sampleOvertaken := by
  decide +kernel

end SendingService

end PhoneBridge.Android
