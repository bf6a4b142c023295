import PhoneBridge.Android.BridgeClient
import PhoneBridge.Library.KeyMap
import PhoneBridge.Library.Run

/-!
# Old and new reconnect loops

A cancelled loop of `BridgeClient.kt` notices its cancellation where it is suspended: `delay` ends
it, and a dial or a session ends by an exception, which the loop catches before it ends. So a loop
can write the shared status after a later `start` has launched another one. A step is one call, or
what a loop does between two suspension points.
-/

namespace PhoneBridge.Android

open Library Kotlinx Crypto

/-- A job that `start` has launched and that has not ended. -/
structure Job where
  loop : Loop
  /-- whether `runLoop` has begun -/
  begun : Bool := false
  cancelled : Bool := false
  /-- whether a desktop's hello has arrived in the session -/
  helloed : Bool := false

/-- The client with all its jobs. `loopJob` is the newest one, also when it is cancelled or has
ended; `stop` forgets it. -/
structure OverlappedClient where
  status : BridgeStatus := .disconnected
  desktopName : Option String := none
  running : Bool := false
  loopJob : Option Nat := none
  jobs : KeyMap Nat Job := KeyMap.empty
  launched : Nat := 0

inductive OverlapLabel
  | start (host : String) (port : Int32) (pinnedFingerprint : Option String)
  | stop
  | forceReconnect
  | begins (id : Nat)
  | dialed (id : Nat) (answer : Answer)
  | sessionEnded (id : Nat) (error : Option String)
  | delayEnded (id : Nat)
  | received (id : Nat) (frame : Json)

namespace OverlappedClient

section Operations

variable (s : OverlappedClient)

/-- `loopJob?.cancel()` -/
def cancelled : KeyMap Nat Job :=
  match s.loopJob with
  | none => s.jobs
  | some id =>
    match s.jobs.get id with
    | none => s.jobs
    | some job => s.jobs.insert id { job with cancelled := true }

def start (initialHost : String) (initialPort : Int32) (pinnedFingerprint : Option String) :
    OverlappedClient :=
  if s.running then s
  else { s with
    running := true
    loopJob := some s.launched
    jobs := s.cancelled.insert s.launched
      { loop := { host := initialHost, port := initialPort, pinnedFingerprint } }
    launched := s.launched + 1 }

def stop : OverlappedClient :=
  { s with running := false, jobs := s.cancelled, loopJob := none, status := .disconnected }

def forceReconnect : OverlappedClient := { s with running := false, jobs := s.cancelled }

variable (id : Nat) (job : Job)

/-- `runLoop` ends after its `while`. -/
def ended : OverlappedClient := { s with jobs := s.jobs.remove id, status := .disconnected }

/-- The loop goes on to its `delay`, which a cancelled one does not survive. -/
def delayed (loop : Loop) : OverlappedClient :=
  { s with jobs :=
      if job.cancelled then s.jobs.remove id
      else s.jobs.insert id { job with loop := loop.backOff } }

/-- The `catch` of `runLoop`. -/
def caught (message : String) : OverlappedClient :=
  if s.running then { s with status := .error message }.delayed id job job.loop else s.ended id

/-- The top of the `while`. -/
def redials : OverlappedClient :=
  if s.running then { s with
    status := .connecting job.loop.host job.loop.port
    jobs := s.jobs.insert id
      { job with begun := true, loop := { job.loop with phase := .dialing } } }
  else s.ended id

end Operations

variable (sha256 : List UInt8 → Digest) (lexer : Lexer)

/-- The desktop's name in a frame, when it is the hello of a desktop. -/
def frameName (frame : Json) : Option String :=
  match Envelope.decode lexer frame with
  | .ok env => BridgeClient.helloName lexer env
  | .error _ => none

/-- What a job does at the suspension point that it stands at. -/
def advance (s : OverlappedClient) (id : Nat) (job : Job) : OverlapLabel → Option OverlappedClient
  | .begins _ =>
    if job.begun then none
    else if job.cancelled then some { s with jobs := s.jobs.remove id }
    else some ({ s with desktopName := none }.redials id job)
  | .dialed _ answer =>
    match job.begun, job.loop.phase with
    | true, .dialing =>
      match job.loop.dial sha256 answer with
      | .error message => some (s.caught id job message)
      | .ok session => some { s with
          status := .connected job.loop.host job.loop.port (session.actualFp sha256)
          jobs := s.jobs.insert id
            { job with loop := { job.loop with phase := .pumping session }, helloed := false } }
    | _, _ => none
  | .sessionEnded _ error =>
    match job.loop.phase with
    | .pumping _ =>
      match error with
      | some message => some (s.caught id job message)
      | none =>
        some (if s.running then s.delayed id job { job.loop with attempt := 0 } else s.ended id)
    | _ => none
  | .delayEnded _ =>
    match job.loop.phase with
    | .waiting _ =>
      some (if job.cancelled then { s with jobs := s.jobs.remove id } else s.redials id job)
    | _ => none
  | .received _ frame =>
    match job.loop.phase with
    | .pumping _ =>
      match frameName lexer frame with
      | some name => some { s with
          desktopName := some name, jobs := s.jobs.insert id { job with helloed := true } }
      | none => some s
    | _ => none
  | _ => none

def step (s : OverlappedClient) (label : OverlapLabel) : Option OverlappedClient :=
  match label with
  | .start host port pinnedFingerprint => some (s.start host port pinnedFingerprint)
  | .stop => some s.stop
  | .forceReconnect => some s.forceReconnect
  | .begins id | .dialed id _ | .sessionEnded id _ | .delayEnded id | .received id _ =>
    (s.jobs.get id).bind fun job ↦ s.advance sha256 lexer id job label

end OverlappedClient

/-! ## What is published -/

/-- An open session, and whether a desktop's hello has arrived in it. -/
structure OpenSession where
  host : String
  port : Int32
  helloed : Bool
  deriving DecidableEq, Repr

/-- What the client publishes, next to the sessions that are open. -/
structure Published where
  status : BridgeStatus
  desktopName : Option String
  loopJob : Option Nat
  sessions : KeyMap Nat OpenSession

def Job.openSession (job : Job) : Option OpenSession :=
  match job.loop.phase with
  | .pumping _ => some { host := job.loop.host, port := job.loop.port, helloed := job.helloed }
  | .dialing | .waiting _ => none

/-- The open sessions of the jobs. -/
def openSessions (jobs : KeyMap Nat Job) : KeyMap Nat OpenSession :=
  fun id ↦ (jobs.get id).bind Job.openSession

def OverlappedClient.published (s : OverlappedClient) : Published where
  status := s.status
  desktopName := s.desktopName
  loopJob := s.loopJob
  sessions := openSessions s.jobs

namespace Published

/-- The status tells of the session of the current loop, and is not Connected without a session; the
name is that of a desktop whose hello has arrived in a session that is open, which is the session of
the current loop when that has one. -/
structure Truthful (p : Published) : Prop where
  current : ∀ id session, p.loopJob = some id → p.sessions.get id = some session →
    ∃ fingerprint, p.status = .connected session.host session.port fingerprint
  closed : (∀ id, p.sessions.get id = none) → p.status.isConnected = false
  named : p.desktopName ≠ none →
    ∃ id session, p.sessions.get id = some session ∧ session.helloed = true
  currentNamed : p.desktopName ≠ none → ∀ id session, p.loopJob = some id →
    p.sessions.get id = some session → session.helloed = true

section Conditions

variable (p : Published) (id : Nat)

/-- No loop but this one is the current one with an open session. -/
def NoOtherCurrent : Prop :=
  ∀ other, p.loopJob = some other → other ≠ id → p.sessions.get other = none

/-- Without the session of this loop the name is still that of a session, or there is no name. -/
def NameStays : Prop :=
  p.desktopName = none ∨ ∃ other session, other ≠ id ∧ p.sessions.get other = some session ∧
    session.helloed = true

/-- Without the session of this loop a Connected status still has a session. -/
def StatusStays : Prop :=
  p.status.isConnected = true → ∃ other session, other ≠ id ∧ p.sessions.get other = some session

end Conditions

/-! ## When a change leaves it truthful -/

section Changes

variable {p : Published} {id : Nat} {status : BridgeStatus}

theorem Truthful.stopped (h : p.Truthful) :
    Truthful { p with loopJob := none, status := .disconnected } where
  current _ _ hjob := nomatch hjob
  closed _ := rfl
  named := h.named
  currentNamed _ _ _ hjob := nomatch hjob

theorem Truthful.unnamed (h : p.Truthful) : Truthful { p with desktopName := none } where
  current := h.current
  closed := h.closed
  named hname := absurd rfl hname
  currentNamed hname := absurd rfl hname

theorem Truthful.launched (h : p.Truthful) (hclosed : p.sessions.get id = none) :
    Truthful { p with loopJob := some id } where
  current other session hjob hsession := by
    cases hjob
    rw [hclosed] at hsession
    cases hsession
  closed := h.closed
  named := h.named
  currentNamed _ other session hjob hsession := by
    cases hjob
    rw [hclosed] at hsession
    cases hsession

/-- A loop without a session lends its name to nothing. -/
theorem Truthful.nameStays (h : p.Truthful) (hclosed : p.sessions.get id = none) :
    p.NameStays id := by
  by_cases hname : p.desktopName = none
  · exact .inl hname
  · obtain ⟨other, session, hsession, hhello⟩ := h.named hname
    refine .inr ⟨other, session, ?_, hsession, hhello⟩
    rintro rfl
    rw [hclosed] at hsession
    cases hsession

/-- The name that is left without the session of this loop is that of another one. -/
theorem nameStays_of_removed
    (h : p.desktopName ≠ none → ∃ other session,
      (p.sessions.remove id).get other = some session ∧ session.helloed = true) :
    p.NameStays id := by
  by_cases hname : p.desktopName = none
  · exact .inl hname
  · obtain ⟨other, session, hsession, hhello⟩ := h hname
    obtain ⟨hne, hold⟩ := KeyMap.get_remove_eq_some.mp hsession
    exact .inr ⟨other, session, hne, hold, hhello⟩

/-- A loop fails, or ends, or dials: it has no session, and the status is not Connected. -/
theorem truthful_withdrawn_iff (hstatus : status.isConnected = false) :
    Truthful { p with status, sessions := p.sessions.remove id } ↔
      p.NoOtherCurrent id ∧ p.NameStays id := by
  constructor
  · intro h
    constructor
    · intro other hjob hne
      by_contra hopen
      obtain ⟨session, hsession⟩ := Option.ne_none_iff_exists'.mp hopen
      have hkept := KeyMap.get_remove_eq_some.mpr ⟨hne, hsession⟩
      obtain ⟨fingerprint, hconnected⟩ := h.current other session hjob hkept
      change status = _ at hconnected
      rw [hconnected] at hstatus
      cases hstatus
    · exact nameStays_of_removed h.named
  · rintro ⟨hcurrent, hname⟩
    have hvacuous : ∀ other session, p.loopJob = some other →
        (p.sessions.remove id).get other ≠ some session := by
      intro other session hjob hsession
      obtain ⟨hne, hold⟩ := KeyMap.get_remove_eq_some.mp hsession
      rw [hcurrent other hjob hne] at hold
      cases hold
    constructor
    · exact fun other session hjob hsession ↦ absurd hsession (hvacuous other session hjob)
    · exact fun _ ↦ hstatus
    · intro hsome
      obtain ⟨other, session, hne, hsession, hhello⟩ := hname.resolve_left hsome
      exact ⟨other, session, KeyMap.get_remove_eq_some.mpr ⟨hne, hsession⟩, hhello⟩
    · exact fun _ other session hjob hsession ↦ absurd hsession (hvacuous other session hjob)

/-- A session ends without an exception: the status stays. -/
theorem Truthful.ended_iff (h : p.Truthful) :
    Truthful { p with sessions := p.sessions.remove id } ↔ p.StatusStays id ∧ p.NameStays id := by
  constructor
  · intro hnext
    constructor
    · intro hconnected
      by_contra hlone
      push Not at hlone
      have hnone : ∀ other, (p.sessions.remove id).get other = none := by
        intro other
        by_contra hopen
        obtain ⟨session, hsession⟩ := Option.ne_none_iff_exists'.mp hopen
        obtain ⟨hne, hold⟩ := KeyMap.get_remove_eq_some.mp hsession
        exact hlone other session hne hold
      have hclosed := hnext.closed hnone
      rw [hconnected] at hclosed
      cases hclosed
    · exact nameStays_of_removed hnext.named
  · rintro ⟨hstatus, hname⟩
    constructor
    · exact fun other session hjob hsession ↦
        h.current other session hjob (KeyMap.get_remove_eq_some.mp hsession).2
    · intro hnone
      by_contra hconnected
      obtain ⟨other, session, hne, hold⟩ := hstatus (Bool.eq_true_of_not_eq_false hconnected)
      have hsession := KeyMap.get_remove_eq_some.mpr ⟨hne, hold⟩
      rw [hnone other] at hsession
      cases hsession
    · intro hsome
      obtain ⟨other, session, hne, hold, hhello⟩ := hname.resolve_left hsome
      exact ⟨other, session, KeyMap.get_remove_eq_some.mpr ⟨hne, hold⟩, hhello⟩
    · exact fun hsome other session hjob hsession ↦
        h.currentNamed hsome other session hjob (KeyMap.get_remove_eq_some.mp hsession).2

/-- A dial opens a session. -/
theorem Truthful.opened_iff (h : p.Truthful) (hclosed : p.sessions.get id = none) (host : String)
    (port : Int32) (fingerprint : String) :
    Truthful { p with
        status := .connected host port fingerprint
        sessions := p.sessions.insert id { host, port, helloed := false } } ↔
      (p.loopJob = some id → p.desktopName = none) ∧
        ∀ other session, p.loopJob = some other → other ≠ id →
          p.sessions.get other = some session → session.host = host ∧ session.port = port := by
  constructor
  · intro hnext
    constructor
    · intro hjob
      by_contra hname
      cases hnext.currentNamed hname id _ hjob (KeyMap.get_insert_self ..)
    · intro other session hjob hne hsession
      obtain ⟨fingerprint, hconnected⟩ := hnext.current other session hjob (by
        rw [KeyMap.get_insert_of_ne _ _ hne]
        exact hsession)
      cases hconnected
      exact ⟨rfl, rfl⟩
  · rintro ⟨hname, hother⟩
    constructor
    · intro other session hjob hsession
      rcases KeyMap.get_insert_eq_some.mp hsession with ⟨rfl, rfl⟩ | ⟨hne, hold⟩
      · exact ⟨fingerprint, rfl⟩
      · obtain ⟨rfl, rfl⟩ := hother other session hjob hne hold
        exact ⟨fingerprint, rfl⟩
    · intro hnone
      have hsession := hnone id
      rw [KeyMap.get_insert_self] at hsession
      cases hsession
    · intro hsome
      obtain ⟨other, session, hsession, hhello⟩ := h.named hsome
      have hne : other ≠ id := by
        rintro rfl
        rw [hclosed] at hsession
        cases hsession
      exact ⟨other, session, by rw [KeyMap.get_insert_of_ne _ _ hne]; exact hsession, hhello⟩
    · intro hsome other session hjob hsession
      rcases KeyMap.get_insert_eq_some.mp hsession with ⟨rfl, -⟩ | ⟨-, hold⟩
      · exact absurd (hname hjob) hsome
      · exact h.currentNamed hsome other session hjob hold

/-- The hello of a desktop arrives in a session. -/
theorem Truthful.greeted_iff (h : p.Truthful) {session : OpenSession}
    (hopen : p.sessions.get id = some session) (name : String) :
    Truthful { p with
        desktopName := some name
        sessions := p.sessions.insert id { session with helloed := true } } ↔
      ∀ other current, p.loopJob = some other → other ≠ id →
        p.sessions.get other = some current → current.helloed = true := by
  constructor
  · intro hnext other current hjob hne hcurrent
    apply hnext.currentNamed (by simp) other current hjob
    rw [KeyMap.get_insert_of_ne _ _ hne]
    exact hcurrent
  · intro hother
    constructor
    · intro other current hjob hcurrent
      rcases KeyMap.get_insert_eq_some.mp hcurrent with ⟨rfl, rfl⟩ | ⟨-, hold⟩
      · exact h.current other session hjob hopen
      · exact h.current other current hjob hold
    · intro hnone
      have hsession := hnone id
      rw [KeyMap.get_insert_self] at hsession
      cases hsession
    · exact fun _ ↦ ⟨id, _, KeyMap.get_insert_self .., rfl⟩
    · intro _ other current hjob hcurrent
      rcases KeyMap.get_insert_eq_some.mp hcurrent with ⟨-, rfl⟩ | ⟨hne, hold⟩
      · rfl
      · exact hother other current hjob hne hold

end Changes

end Published

/-- A dial fails only when no other loop is the current one with a session, and opens a session only
where the current loop has its own, and for the current loop only when no name is published. -/
def OverlappedClient.DialStays (sha256 : List UInt8 → Digest) (s : OverlappedClient) (id : Nat)
    (loop : Loop) (answer : Answer) : Prop :=
  match loop.dial sha256 answer with
  | .error _ => s.published.NoOtherCurrent id
  | .ok _ => (s.loopJob = some id → s.desktopName = none) ∧
      ∀ other session, s.loopJob = some other → other ≠ id →
        s.published.sessions.get other = some session →
          session.host = loop.host ∧ session.port = loop.port

/-- The steps that leave the published state truthful. A session ends without an exception only when
the status is not Connected or another session is open, and by one only when no other loop is the
current one with a session; it ends at all only when no name is published or the name is known from
another session. A hello of a desktop comes in the session of the current loop first. -/
def OverlappedClient.StaysTruthful (sha256 : List UInt8 → Digest) (lexer : Lexer)
    (s : OverlappedClient) : OverlapLabel → Prop
  | .dialed id answer => ∀ job, s.jobs.get id = some job → job.begun = true →
      job.loop.phase = .dialing → s.DialStays sha256 id job.loop answer
  | .sessionEnded id error => ∀ session, s.published.sessions.get id = some session →
      s.published.NameStays id ∧
        if error = none ∧ s.running = true then s.published.StatusStays id
        else s.published.NoOtherCurrent id
  | .received id frame => ∀ session, s.published.sessions.get id = some session →
      frameName lexer frame ≠ none → ∀ other current, s.loopJob = some other → other ≠ id →
        s.published.sessions.get other = some current → current.helloed = true
  | _ => True

/-! ## Jobs and their sessions -/

section Jobs

variable (jobs : KeyMap Nat Job) (id : Nat)

theorem openSessions_insert (job : Job) :
    openSessions (jobs.insert id job) = (openSessions jobs).set id job.openSession := by
  ext1 other
  change ((jobs.insert id job).get other).bind Job.openSession = _
  rw [KeyMap.get_insert, KeyMap.get_set]
  split <;> rfl

theorem openSessions_remove : openSessions (jobs.remove id) = (openSessions jobs).remove id := by
  ext1 other
  change ((jobs.remove id).get other).bind Job.openSession = _
  rw [KeyMap.get_remove, KeyMap.get_remove]
  split <;> rfl

end Jobs

namespace OverlappedClient

section Steps

variable {sha256 : List UInt8 → Digest} {lexer : Lexer} {s next : OverlappedClient}
  {label : OverlapLabel} {id : Nat} {job : Job}

theorem get_cancelled (s : OverlappedClient) (id : Nat) :
    s.cancelled.get id = (s.jobs.get id).map fun job ↦
      if s.loopJob = some id then { job with cancelled := true } else job := by
  unfold cancelled
  cases hcurrent : s.loopJob with
  | none => simp
  | some current =>
    by_cases hid : current = id
    · subst hid
      cases hjob : s.jobs.get current <;> simp [hjob]
    · cases hjob : s.jobs.get current <;> simp [hjob, hid, Ne.symm hid]

theorem openSessions_cancelled (s : OverlappedClient) :
    openSessions s.cancelled = openSessions s.jobs := by
  ext1 id
  change (s.cancelled.get id).bind Job.openSession = (s.jobs.get id).bind Job.openSession
  rw [get_cancelled]
  cases s.jobs.get id with
  | none => rfl
  | some job =>
    rw [Option.map_some, Option.bind_some, Option.bind_some]
    split <;> rfl

theorem get_sessions (hjob : s.jobs.get id = some job) :
    s.published.sessions.get id = job.openSession := by
  change (s.jobs.get id).bind Job.openSession = _
  rw [hjob]
  rfl

/-- A job that is not cancelled is the current one of a running client, the numbers of later jobs
are free, and a job that has not begun is about to dial. -/
structure Orderly (s : OverlappedClient) : Prop where
  live : ∀ id job, s.jobs.get id = some job → job.cancelled = false →
    s.loopJob = some id ∧ s.running = true
  fresh : ∀ id, s.launched ≤ id → s.jobs.get id = none
  dialing : ∀ id job, s.jobs.get id = some job → job.begun = false → job.loop.phase = .dialing

/-- A job moves on, or ends. -/
theorem Orderly.update (h : s.Orderly) (hjob : s.jobs.get id = some job) {value : Option Job}
    (hvalue : ∀ after, value = some after → after.cancelled = job.cancelled ∧ after.begun = true)
    (hjobs : next.jobs = s.jobs.set id value) (hloopJob : next.loopJob = s.loopJob)
    (hrunning : next.running = s.running) (hlaunched : next.launched = s.launched) :
    next.Orderly where
  live other after hget hlive := by
    rw [hjobs, KeyMap.get_set] at hget
    rw [hloopJob, hrunning]
    split at hget
    · next hother =>
      subst hother
      exact h.live other job hjob ((hvalue after hget).1 ▸ hlive)
    · exact h.live other after hget hlive
  fresh other hother := by
    rw [hlaunched] at hother
    rw [hjobs, KeyMap.get_set, if_neg, h.fresh other hother]
    rintro rfl
    rw [h.fresh other hother] at hjob
    cases hjob
  dialing other after hget hbegun := by
    rw [hjobs, KeyMap.get_set] at hget
    split at hget
    · rw [(hvalue after hget).2] at hbegun
      cases hbegun
    · exact h.dialing other after hget hbegun

theorem Orderly.begun (h : s.Orderly) (hjob : s.jobs.get id = some job) {session : Session}
    (hphase : job.loop.phase = .pumping session) : job.begun = true := by
  by_contra hbegun
  have hdialing := h.dialing id job hjob (Bool.eq_false_of_not_eq_true hbegun)
  rw [hphase] at hdialing
  cases hdialing

/-- All jobs are cancelled. -/
theorem Orderly.of_cancelled (h : s.Orderly) (hjobs : next.jobs = s.cancelled)
    (hlaunched : next.launched = s.launched) : next.Orderly where
  live other after hget hlive := by
    rw [hjobs, get_cancelled] at hget
    obtain ⟨job, hjob, rfl⟩ := Option.map_eq_some_iff.mp hget
    split at hlive
    · cases hlive
    · next hother => exact absurd (h.live other job hjob hlive).1 hother
  fresh other hother := by
    rw [hlaunched] at hother
    rw [hjobs, get_cancelled, h.fresh other hother]
    rfl
  dialing other after hget hbegun := by
    rw [hjobs, get_cancelled] at hget
    obtain ⟨job, hjob, rfl⟩ := Option.map_eq_some_iff.mp hget
    by_cases hother : s.loopJob = some other
    · rw [if_pos hother] at hbegun ⊢
      exact h.dialing other job hjob hbegun
    · rw [if_neg hother] at hbegun ⊢
      exact h.dialing other job hjob hbegun

theorem Orderly.start (h : s.Orderly) (host : String) (port : Int32)
    (pinnedFingerprint : Option String) : (s.start host port pinnedFingerprint).Orderly := by
  unfold OverlappedClient.start
  split
  · exact h
  · next hrunning =>
    have hcancelled : ({ s with jobs := s.cancelled } : OverlappedClient).Orderly :=
      h.of_cancelled rfl rfl
    constructor
    · intro other job hget hlive
      change (s.cancelled.insert s.launched _).get other = _ at hget
      rcases KeyMap.get_insert_eq_some.mp hget with ⟨rfl, -⟩ | ⟨-, hold⟩
      · exact ⟨rfl, rfl⟩
      · exact absurd (hcancelled.live other job hold hlive).2 hrunning
    · intro other hother
      change s.launched + 1 ≤ other at hother
      change (s.cancelled.insert s.launched _).get other = none
      rw [KeyMap.get_insert_of_ne _ _ (by omega)]
      exact hcancelled.fresh other (Nat.le_of_succ_le hother)
    · intro other job hget hbegun
      change (s.cancelled.insert s.launched _).get other = _ at hget
      rcases KeyMap.get_insert_eq_some.mp hget with ⟨-, rfl⟩ | ⟨-, hold⟩
      · rfl
      · exact hcancelled.dialing other job hold hbegun

/-! ## What the moves of a loop publish -/

theorem published_ended (s : OverlappedClient) (id : Nat) : (s.ended id).published =
    { s.published with status := .disconnected, sessions := s.published.sessions.remove id } := by
  simp [published, ended, openSessions_remove]

theorem published_delayed (s : OverlappedClient) (id : Nat) (job : Job) (loop : Loop) :
    (s.delayed id job loop).published =
      { s.published with sessions := s.published.sessions.remove id } := by
  unfold delayed
  split
  · simp [published, openSessions_remove]
  · simp [published, openSessions_insert, Job.openSession, Loop.backOff]

/-- A loop that catches an exception has no session, and the status is not Connected. -/
theorem published_caught (s : OverlappedClient) (id : Nat) (job : Job) (message : String) :
    ∃ status : BridgeStatus, status.isConnected = false ∧ (s.caught id job message).published =
      { s.published with status, sessions := s.published.sessions.remove id } := by
  unfold caught
  split
  · exact ⟨.error message, rfl, published_delayed { s with status := .error message } id job _⟩
  · exact ⟨.disconnected, rfl, published_ended s id⟩

/-- So it is with a loop that dials. -/
theorem published_redials (s : OverlappedClient) (id : Nat) (job : Job) :
    ∃ status : BridgeStatus, status.isConnected = false ∧ (s.redials id job).published =
      { s.published with status, sessions := s.published.sessions.remove id } := by
  unfold redials
  split
  · refine ⟨.connecting job.loop.host job.loop.port, rfl, ?_⟩
    simp [published, openSessions_insert, Job.openSession]
  · exact ⟨.disconnected, rfl, published_ended s id⟩

theorem Orderly.removed (h : s.Orderly) (hjob : s.jobs.get id = some job)
    (hjobs : next.jobs = s.jobs.set id none) (hloopJob : next.loopJob = s.loopJob)
    (hrunning : next.running = s.running) (hlaunched : next.launched = s.launched) :
    next.Orderly := by
  apply h.update hjob _ hjobs hloopJob hrunning hlaunched
  intro after hafter
  cases hafter

theorem Orderly.ended (h : s.Orderly) (hjob : s.jobs.get id = some job) : (s.ended id).Orderly :=
  h.removed hjob rfl rfl rfl rfl

theorem Orderly.delayed (h : s.Orderly) (hjob : s.jobs.get id = some job)
    (hbegun : job.begun = true) (loop : Loop) : (s.delayed id job loop).Orderly := by
  unfold OverlappedClient.delayed
  split
  · exact h.removed hjob rfl rfl rfl rfl
  · exact h.update hjob (by rintro _ ⟨⟩; exact ⟨rfl, hbegun⟩) (KeyMap.set_some ..).symm rfl rfl rfl

theorem Orderly.caught (h : s.Orderly) (hjob : s.jobs.get id = some job)
    (hbegun : job.begun = true) (message : String) : (s.caught id job message).Orderly := by
  unfold OverlappedClient.caught
  split
  · have herror : ({ s with status := .error message } : OverlappedClient).Orderly :=
      ⟨h.live, h.fresh, h.dialing⟩
    exact herror.delayed hjob hbegun job.loop
  · exact h.ended hjob

theorem Orderly.redials (h : s.Orderly) (hjob : s.jobs.get id = some job) :
    (s.redials id job).Orderly := by
  unfold OverlappedClient.redials
  split
  · exact h.update hjob (by rintro _ ⟨⟩; exact ⟨rfl, rfl⟩) (KeyMap.set_some ..).symm rfl rfl rfl
  · exact h.ended hjob

/-- A job that is not cancelled has no other current one beside it. -/
theorem Orderly.noOtherCurrent (h : s.Orderly) (hjob : s.jobs.get id = some job)
    (hlive : job.cancelled = false) : s.published.NoOtherCurrent id := by
  intro other hother hne
  change s.loopJob = some other at hother
  rw [(h.live id job hjob hlive).1] at hother
  exact absurd (Option.some.inj hother).symm hne

/-- A loop that is not cancelled and has no session dials. -/
theorem truthful_redials (h : s.Orderly) (htruthful : s.published.Truthful)
    (hjob : s.jobs.get id = some job) (hlive : job.cancelled = false)
    (hclosed : job.openSession = none) : (s.redials id job).published.Truthful := by
  obtain ⟨status, hstatus, hpublished⟩ := published_redials s id job
  rw [hpublished, Published.truthful_withdrawn_iff hstatus]
  refine ⟨h.noOtherCurrent hjob hlive, htruthful.nameStays ?_⟩
  rw [get_sessions hjob, hclosed]

/-- A job without a session that ends changes nothing that is published. -/
theorem published_remove (hjob : s.jobs.get id = some job) (hclosed : job.openSession = none) :
    ({ s with jobs := s.jobs.remove id } : OverlappedClient).published = s.published := by
  have hsessions : (openSessions s.jobs).get id = none := (get_sessions hjob).trans hclosed
  simp only [published, openSessions_remove]
  rw [KeyMap.remove_get hsessions]

/-! ## The steps -/

theorem begins_spec (h : s.Orderly) (htruthful : s.published.Truthful)
    (hjob : s.jobs.get id = some job)
    (hadvance : s.advance sha256 lexer id job (.begins id) = some next) :
    next.Orderly ∧ next.published.Truthful := by
  simp only [advance] at hadvance
  split at hadvance
  · cases hadvance
  · next hbegun =>
    have hphase := h.dialing id job hjob (Bool.eq_false_of_not_eq_true hbegun)
    have hclosed : job.openSession = none := by rw [Job.openSession, hphase]
    split at hadvance
    · cases hadvance
      refine ⟨h.removed hjob rfl rfl rfl rfl, ?_⟩
      rw [published_remove hjob hclosed]
      exact htruthful
    · next hlive =>
      cases hadvance
      have hunnamed : ({ s with desktopName := none } : OverlappedClient).Orderly :=
        ⟨h.live, h.fresh, h.dialing⟩
      refine ⟨hunnamed.redials hjob, ?_⟩
      exact truthful_redials hunnamed htruthful.unnamed hjob (Bool.eq_false_of_not_eq_true hlive)
        hclosed

theorem delayEnded_spec (h : s.Orderly) (htruthful : s.published.Truthful)
    (hjob : s.jobs.get id = some job)
    (hadvance : s.advance sha256 lexer id job (.delayEnded id) = some next) :
    next.Orderly ∧ next.published.Truthful := by
  simp only [advance] at hadvance
  split at hadvance
  · next hphase =>
    have hclosed : job.openSession = none := by rw [Job.openSession, hphase]
    cases hadvance
    split
    · refine ⟨h.removed hjob rfl rfl rfl rfl, ?_⟩
      rw [published_remove hjob hclosed]
      exact htruthful
    · next hlive =>
      refine ⟨h.redials hjob, ?_⟩
      exact truthful_redials h htruthful hjob (Bool.eq_false_of_not_eq_true hlive) hclosed
  · cases hadvance

theorem dialed_spec (h : s.Orderly) (htruthful : s.published.Truthful)
    (hjob : s.jobs.get id = some job) {answer : Answer}
    (hadvance : s.advance sha256 lexer id job (.dialed id answer) = some next) :
    next.Orderly ∧
      (next.published.Truthful ↔ s.StaysTruthful sha256 lexer (.dialed id answer)) := by
  simp only [advance] at hadvance
  split at hadvance
  · next hbegun hphase =>
    have hclosed : s.published.sessions.get id = none := by
      rw [get_sessions hjob, Job.openSession, hphase]
    have hstays : s.StaysTruthful sha256 lexer (.dialed id answer) ↔
        s.DialStays sha256 id job.loop answer := by
      constructor
      · exact fun hstays ↦ hstays job hjob hbegun hphase
      · intro hdialed other hother _ _
        rw [hjob] at hother
        cases hother
        exact hdialed
    rw [hstays, DialStays]
    cases hdial : job.loop.dial sha256 answer with
    | error message =>
      rw [hdial] at hadvance
      cases hadvance
      obtain ⟨status, hstatus, hpublished⟩ := published_caught s id job message
      refine ⟨h.caught hjob hbegun message, ?_⟩
      rw [hpublished, Published.truthful_withdrawn_iff hstatus]
      exact and_iff_left (htruthful.nameStays hclosed)
    | ok session =>
      rw [hdial] at hadvance
      cases hadvance
      constructor
      · exact h.update hjob (by rintro _ ⟨⟩; exact ⟨rfl, hbegun⟩) (KeyMap.set_some ..).symm
          rfl rfl rfl
      · have hopened := htruthful.opened_iff hclosed job.loop.host job.loop.port
          (session.actualFp sha256)
        simpa [published, openSessions_insert, Job.openSession] using hopened
  · cases hadvance

theorem sessionEnded_spec (h : s.Orderly) (htruthful : s.published.Truthful)
    (hjob : s.jobs.get id = some job) {error : Option String}
    (hadvance : s.advance sha256 lexer id job (.sessionEnded id error) = some next) :
    next.Orderly ∧
      (next.published.Truthful ↔ s.StaysTruthful sha256 lexer (.sessionEnded id error)) := by
  simp only [advance] at hadvance
  split at hadvance
  · next hphase =>
    have hbegun := h.begun hjob hphase
    have hopen : s.published.sessions.get id = job.openSession := get_sessions hjob
    rw [Job.openSession, hphase] at hopen
    have hstays : s.StaysTruthful sha256 lexer (.sessionEnded id error) ↔
        s.published.NameStays id ∧
          if error = none ∧ s.running = true then s.published.StatusStays id
          else s.published.NoOtherCurrent id :=
      ⟨fun hstays ↦ hstays _ hopen, fun hended _ _ ↦ hended⟩
    rw [hstays]
    cases error with
    | some message =>
      cases hadvance
      obtain ⟨status, hstatus, hpublished⟩ := published_caught s id job message
      refine ⟨h.caught hjob hbegun message, ?_⟩
      rw [hpublished, Published.truthful_withdrawn_iff hstatus, if_neg (by simp)]
      exact and_comm
    | none =>
      cases hadvance
      split
      · next hrunning =>
        refine ⟨h.delayed hjob hbegun _, ?_⟩
        rw [published_delayed, htruthful.ended_iff, if_pos ⟨rfl, hrunning⟩]
        exact and_comm
      · next hrunning =>
        refine ⟨h.ended hjob, ?_⟩
        rw [published_ended, Published.truthful_withdrawn_iff rfl,
          if_neg (fun hboth ↦ hrunning hboth.2)]
        exact and_comm
  · cases hadvance

theorem received_spec (h : s.Orderly) (htruthful : s.published.Truthful)
    (hjob : s.jobs.get id = some job) {frame : Json}
    (hadvance : s.advance sha256 lexer id job (.received id frame) = some next) :
    next.Orderly ∧
      (next.published.Truthful ↔ s.StaysTruthful sha256 lexer (.received id frame)) := by
  simp only [advance] at hadvance
  split at hadvance
  · next hphase =>
    have hbegun := h.begun hjob hphase
    have hopen : s.published.sessions.get id = job.openSession := get_sessions hjob
    rw [Job.openSession, hphase] at hopen
    split at hadvance
    · next name hname =>
      cases hadvance
      constructor
      · exact h.update hjob (by rintro _ ⟨⟩; exact ⟨rfl, hbegun⟩) (KeyMap.set_some ..).symm
          rfl rfl rfl
      · have hgreeted := htruthful.greeted_iff hopen name
        have hpublished : OverlappedClient.published { s with
              desktopName := some name, jobs := s.jobs.insert id { job with helloed := true } } =
            { s.published with
              desktopName := some name
              sessions := s.published.sessions.insert id
                { host := job.loop.host, port := job.loop.port, helloed := true } } := by
          simp [published, openSessions_insert, Job.openSession, hphase]
        rw [hpublished, hgreeted]
        constructor
        · exact fun hother _ _ _ ↦ hother
        · exact fun hstays ↦ hstays _ hopen (by rw [hname]; simp)
    · next hname =>
      cases hadvance
      refine ⟨h, fun _ _ _ hsome ↦ absurd hname hsome, fun _ ↦ htruthful⟩
  · cases hadvance

theorem start_spec (h : s.Orderly) (htruthful : s.published.Truthful) (host : String)
    (port : Int32) (pinnedFingerprint : Option String) :
    (s.start host port pinnedFingerprint).published.Truthful := by
  unfold OverlappedClient.start
  split
  · exact htruthful
  · have hfree : (openSessions s.jobs).get s.launched = none := by
      change (s.jobs.get s.launched).bind Job.openSession = none
      rw [h.fresh s.launched (le_refl s.launched)]
      rfl
    have hsessions : openSessions (s.cancelled.insert s.launched
        { loop := { host, port, pinnedFingerprint } }) = openSessions s.jobs := by
      rw [openSessions_insert, openSessions_cancelled]
      exact KeyMap.set_get hfree
    simp only [published, hsessions]
    exact htruthful.launched hfree

/-- A step is truthful exactly as it should be. -/
theorem step_spec (h : s.Orderly) (htruthful : s.published.Truthful)
    (hstep : s.step sha256 lexer label = some next) :
    next.Orderly ∧ (next.published.Truthful ↔ s.StaysTruthful sha256 lexer label) := by
  cases label with
  | start host port pinnedFingerprint =>
    cases hstep
    exact ⟨h.start host port pinnedFingerprint,
      iff_of_true (start_spec h htruthful host port pinnedFingerprint) trivial⟩
  | stop =>
    cases hstep
    refine ⟨h.of_cancelled rfl rfl, iff_of_true ?_ trivial⟩
    simp only [published, stop, openSessions_cancelled]
    exact htruthful.stopped
  | forceReconnect =>
    cases hstep
    refine ⟨h.of_cancelled rfl rfl, iff_of_true ?_ trivial⟩
    simp only [published, forceReconnect, openSessions_cancelled]
    exact htruthful
  | begins id =>
    obtain ⟨job, hjob, hadvance⟩ := Option.bind_eq_some_iff.mp hstep
    obtain ⟨horderly, hnext⟩ := begins_spec h htruthful hjob hadvance
    exact ⟨horderly, iff_of_true hnext trivial⟩
  | dialed id answer =>
    obtain ⟨job, hjob, hadvance⟩ := Option.bind_eq_some_iff.mp hstep
    exact dialed_spec h htruthful hjob hadvance
  | sessionEnded id error =>
    obtain ⟨job, hjob, hadvance⟩ := Option.bind_eq_some_iff.mp hstep
    exact sessionEnded_spec h htruthful hjob hadvance
  | delayEnded id =>
    obtain ⟨job, hjob, hadvance⟩ := Option.bind_eq_some_iff.mp hstep
    obtain ⟨horderly, hnext⟩ := delayEnded_spec h htruthful hjob hadvance
    exact ⟨horderly, iff_of_true hnext trivial⟩
  | received id frame =>
    obtain ⟨job, hjob, hadvance⟩ := Option.bind_eq_some_iff.mp hstep
    exact received_spec h htruthful hjob hadvance

/-- An open session is that of a job in `pumpLoop`. -/
theorem pumping_of_session {session : OpenSession}
    (hsession : s.published.sessions.get id = some session) :
    ∃ job pumped, s.jobs.get id = some job ∧ job.loop.phase = .pumping pumped := by
  obtain ⟨job, hjob, hopen⟩ := Option.bind_eq_some_iff.mp hsession
  unfold Job.openSession at hopen
  split at hopen
  · next hphase => exact ⟨job, _, hjob, hphase⟩
  · cases hopen
  · cases hopen

/-- A step that would not leave the published state truthful is one that can be taken. -/
theorem enabled_of_not_stays (hstays : ¬ s.StaysTruthful sha256 lexer label) :
    ∃ next, s.step sha256 lexer label = some next := by
  cases label with
  | dialed id answer =>
    simp only [StaysTruthful, Classical.not_forall] at hstays
    obtain ⟨job, hjob, hbegun, hphase, -⟩ := hstays
    cases hdial : job.loop.dial sha256 answer <;>
      simp [step, advance, hjob, hbegun, hphase, hdial]
  | sessionEnded id error =>
    simp only [StaysTruthful, Classical.not_forall] at hstays
    obtain ⟨session, hsession, -⟩ := hstays
    obtain ⟨job, pumped, hjob, hphase⟩ := pumping_of_session hsession
    cases error <;> simp [step, advance, hjob, hphase]
  | received id frame =>
    simp only [StaysTruthful, Classical.not_forall] at hstays
    obtain ⟨session, hsession, -⟩ := hstays
    obtain ⟨job, pumped, hjob, hphase⟩ := pumping_of_session hsession
    cases hname : frameName lexer frame <;> simp [step, advance, hjob, hphase, hname]
  | _ => exact absurd trivial hstays

end Steps

/-- In every interleaving of the calls with the loops the published state is truthful throughout if
and only if every step is one that leaves it so. -/
theorem published_truthful_iff (sha256 : List UInt8 → Digest) (lexer : Lexer)
    (labels : List OverlapLabel) :
    Run.Always (step sha256 lexer) (fun s ↦ s.published.Truthful) {} labels ↔
      Run.Throughout (step sha256 lexer) (StaysTruthful sha256 lexer) {} labels := by
  apply Run.always_iff_throughout fun s ↦ s.Orderly ∧ s.published.Truthful
  · exact fun _ h ↦ h.2
  · intro s label next h hstays hstep
    obtain ⟨horderly, hnext⟩ := step_spec h.1 h.2 hstep
    exact ⟨horderly, hnext.mpr hstays⟩
  · intro s label h hstays
    obtain ⟨next, hstep⟩ := enabled_of_not_stays hstays
    exact ⟨next, hstep, fun hnext ↦ hstays ((step_spec h.1 h.2 hstep).2.mp hnext)⟩
  · constructor
    · exact {
        live := fun _ _ hget ↦ nomatch hget
        fresh := fun _ _ ↦ rfl
        dialing := fun _ _ hget ↦ nomatch hget }
    · exact {
        current := fun _ _ hjob ↦ nomatch hjob
        closed := fun _ ↦ rfl
        named := fun hname ↦ absurd rfl hname
        currentNamed := fun hname ↦ absurd rfl hname }

/-- A stop and a start while a session is open; the old loop catches its cancellation last. -/
def sampleOverlap : List OverlapLabel :=
  [.start "10.0.0.2" 8443 none, .begins 0, .dialed 0 (.upgraded []), .stop,
    .start "10.0.0.3" 8443 none, .begins 1, .dialed 1 (.upgraded []),
    .sessionEnded 0 (some "Job was cancelled")]

/-- The old loop publishes an error over the session of the new one. -/
theorem cancelled_loop_publishes_error : ¬ ∀ (sha256 : List UInt8 → Digest) (lexer : Lexer)
    (labels : List OverlapLabel),
    Run.Always (step sha256 lexer) (fun s ↦ s.published.Truthful) {} labels := by
  intro h
  have hend := (h sampleSha256 sampleLexer sampleOverlap).last rfl
  obtain ⟨fingerprint, hstatus⟩ := hend.current 1 _ rfl rfl
  cases hstatus

end OverlappedClient

end PhoneBridge.Android
