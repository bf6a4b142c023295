import PhoneBridge.DeskDisplay.DisplayConfig
import PhoneBridge.Library.Backoff
import PhoneBridge.Library.JsonLines
import PhoneBridge.Library.Run
import PhoneBridge.Proto.Display

/-!
# The reconnect loop of the display

`client.rs`: a session ends by an error, after which `run` sleeps and doubles the backoff, or
cleanly, after which it resets the backoff and connects again at once. So the attempts are apart,
and the delays those of the failures since the last session, as long as a clean session is long
enough and a session that breaks is not followed by a failure.
-/

namespace PhoneBridge.DeskDisplay

open Library Proto Backoff

/-! ## One session -/

/-- What the reader of the socket yields. -/
inductive Received
  | error (e : String)
  | text (t : String)
  | binary
  | close
  | other

/-- The answer to `connect_async`: an error, or what the reader then yields. -/
abbrev Connection := Except String (List Received)

section Session

variable (fromStr : String → Except SerdeError DisplayEvent)

/-- The loop of `session` over the messages: the events for the backend, those of the lines of each
text message, and the result. -/
def readLoop : List Received → List DisplayEvent × Except DisplayError Unit
  | [] => ([], .ok ())
  | .error e :: _ => ([], .error (.webSocket ("recv: " ++ e)))
  | .text t :: messages =>
    (JsonLines.valuesOf fromStr t ++ (readLoop messages).1, (readLoop messages).2)
  | .close :: _ => ([], .ok ())
  | .binary :: messages | .other :: messages => readLoop messages

def session (wsUrl : Except DisplayError String) (connection : Connection) :
    List DisplayEvent × Except DisplayError Unit :=
  match wsUrl, connection with
  | .error e, _ => ([], .error e)
  | .ok _, .error e => ([], .error (.webSocket ("connect: " ++ e)))
  | .ok _, .ok messages => readLoop fromStr messages

/-- How an attempt ends. -/
def outcome (wsUrl : Except DisplayError String) (connection : Connection) : Outcome :=
  match (session fromStr wsUrl connection).2 with
  | .ok () => .closed
  | .error _ =>
    match wsUrl, connection with
    | .ok _, .ok _ => .broken
    | .ok _, .error _ | .error _, _ => .failed

end Session

/-! ## The loop -/

def initialBackoff : Nat := 500

def maxBackoff : Nat := 30000

/-- An attempt to connect, with times in milliseconds. -/
structure Attempt where
  connection : Connection
  /-- from the call of `session` to its return -/
  lasts : Nat
  /-- by how much a sleep after it is longer than asked for -/
  late : Nat

/-- `DisplayClient::run` before an attempt, and what it has done so far, newest first. -/
structure DisplayRun where
  backoff : Nat := initialBackoff
  now : Nat := 0
  /-- the sleep that it asked for after the newest attempt -/
  slept : Nat := 0
  begun : List Nat := []
  history : List Outcome := []

namespace DisplayRun

variable (fromStr : String → Except SerdeError DisplayEvent) (wsUrl : Except DisplayError String)

/-- The body of the loop. -/
def step (s : DisplayRun) (attempt : Attempt) : Option DisplayRun :=
  let ended := s.now + attempt.lasts
  let history := outcome fromStr wsUrl attempt.connection :: s.history
  match (session fromStr wsUrl attempt.connection).2 with
  | .ok () => some {
      backoff := initialBackoff, now := ended, slept := 0, begun := s.now :: s.begun, history }
  | .error _ => some {
      backoff := min (s.backoff * 2) maxBackoff, now := ended + (s.backoff + attempt.late),
      slept := s.backoff, begun := s.now :: s.begun, history }

/-- Two consecutive attempts, the next one included, begin at least half a second apart. -/
def Apart (s : DisplayRun) : Prop :=
  (s.now :: s.begun).IsChain fun later earlier ↦ earlier + 500 ≤ later

/-- After `k + 1` failures since the last session the sleep is the initial one doubled `k` times. -/
def SleepsAsClaimed (s : DisplayRun) : Prop :=
  ∀ k, failures s.history = k + 1 → s.slept = min (500 * 2 ^ k) 30000

def BacksOff (s : DisplayRun) : Prop := s.Apart ∧ s.SleepsAsClaimed

/-- A session that ends cleanly has lasted half a second, and no failure follows a broken one. -/
def Unhurried (s : DisplayRun) (attempt : Attempt) : Prop :=
  match outcome fromStr wsUrl attempt.connection with
  | .closed => 500 ≤ attempt.lasts
  | .failed => lastSession s.history ≠ some .broken
  | .broken => True

end DisplayRun

/-! ## The backoff -/

/-- What the backoff is after these attempts. -/
def backoffAfter : List Outcome → Nat
  | [] | .closed :: _ => initialBackoff
  | _ :: past => min (backoffAfter past * 2) maxBackoff

theorem initialBackoff_le (history : List Outcome) : initialBackoff ≤ backoffAfter history := by
  induction history with
  | nil => exact le_refl initialBackoff
  | cons o past ih =>
    have hbounds : initialBackoff ≤ maxBackoff := by decide
    cases o with
    | closed => exact le_refl initialBackoff
    | _ =>
      change initialBackoff ≤ min (backoffAfter past * 2) maxBackoff
      omega

/-- The backoff after failures is the initial one doubled, unless they follow a broken session. -/
theorem backoffAfter_eq_doubled {history : List Outcome} (h : lastSession history ≠ some .broken) :
    backoffAfter history = doubled initialBackoff maxBackoff (failures history) := by
  induction history with
  | nil => rfl
  | cons o past ih =>
    cases o with
    | failed =>
      change min (backoffAfter past * 2) maxBackoff = _
      rw [ih h]
      exact doubled_succ initialBackoff maxBackoff (failures past)
    | closed => rfl
    | broken => exact absurd rfl h

/-- A broken session leaves more than the initial backoff. -/
theorem initialBackoff_lt_of_broken (past : List Outcome) :
    initialBackoff < backoffAfter (.broken :: past) := by
  have hleast := initialBackoff_le past
  change initialBackoff < min (backoffAfter past * 2) maxBackoff
  rw [initialBackoff] at *
  rw [maxBackoff]
  omega

namespace DisplayRun

section Steps

variable {fromStr : String → Except SerdeError DisplayEvent} {wsUrl : Except DisplayError String}
  {s t : DisplayRun} {attempt : Attempt}

/-- The state after an attempt with this outcome. -/
def after (s : DisplayRun) (attempt : Attempt) : Outcome → DisplayRun
  | .closed => {
      backoff := initialBackoff, now := s.now + attempt.lasts, slept := 0,
      begun := s.now :: s.begun, history := .closed :: s.history }
  | o => {
      backoff := min (s.backoff * 2) maxBackoff,
      now := s.now + attempt.lasts + (s.backoff + attempt.late), slept := s.backoff,
      begun := s.now :: s.begun, history := o :: s.history }

/-- The next state depends on the outcome only. -/
theorem step_eq (s : DisplayRun) (attempt : Attempt) : s.step fromStr wsUrl attempt =
    some (s.after attempt (outcome fromStr wsUrl attempt.connection)) := by
  unfold step outcome
  cases (session fromStr wsUrl attempt.connection).2 with
  | ok result => rfl
  | error e =>
    cases wsUrl with
    | error e => rfl
    | ok url => cases attempt.connection <;> rfl

/-- The loop backs off as claimed, the backoff is what the outcomes say, and no failure has followed
a broken session. -/
structure Inv (s : DisplayRun) : Prop where
  backsOff : s.BacksOff
  backoff : s.backoff = backoffAfter s.history
  ordered : ∀ past, s.history = .failed :: past → lastSession past ≠ some .broken

theorem Inv.after_closed (h : s.Inv) (hlasts : 500 ≤ attempt.lasts) :
    (s.after attempt .closed).Inv where
  backsOff := by
    constructor
    · apply List.IsChain.cons_cons _ h.backsOff.1
      exact Nat.add_le_add_left hlasts s.now
    · intro k hk
      cases hk
  backoff := rfl
  ordered past hpast := by cases hpast

/-- A sleep keeps the attempts apart. -/
theorem Inv.apart_after (h : s.Inv) {o : Outcome} (ho : o ≠ .closed) :
    (s.after attempt o).Apart := by
  have hleast : initialBackoff ≤ s.backoff := by
    rw [h.backoff]
    exact initialBackoff_le s.history
  rw [initialBackoff] at hleast
  cases o with
  | closed => exact absurd rfl ho
  | _ =>
    apply List.IsChain.cons_cons _ h.backsOff.1
    change s.now + 500 ≤ s.now + attempt.lasts + (s.backoff + attempt.late)
    omega

theorem Inv.after_failed (h : s.Inv) (hlast : lastSession s.history ≠ some .broken) :
    (s.after attempt .failed).Inv where
  backsOff := by
    refine ⟨h.apart_after (by simp), fun k hk ↦ ?_⟩
    obtain rfl : failures s.history = k := Nat.succ.inj hk
    change s.backoff = _
    rw [h.backoff]
    exact backoffAfter_eq_doubled hlast
  backoff := by
    change min (s.backoff * 2) maxBackoff = _
    rw [h.backoff]
    rfl
  ordered past hpast := by
    cases hpast
    exact hlast

theorem Inv.after_broken (h : s.Inv) : (s.after attempt .broken).Inv where
  backsOff := ⟨h.apart_after (by simp), fun k hk ↦ by cases hk⟩
  backoff := by
    change min (s.backoff * 2) maxBackoff = _
    rw [h.backoff]
    rfl
  ordered past hpast := by cases hpast

theorem Inv.step (h : s.Inv) (hguard : s.Unhurried fromStr wsUrl attempt)
    (hstep : s.step fromStr wsUrl attempt = some t) : t.Inv := by
  rw [step_eq] at hstep
  obtain rfl := Option.some.inj hstep
  rw [Unhurried] at hguard
  cases houtcome : outcome fromStr wsUrl attempt.connection with
  | closed =>
    rw [houtcome] at hguard
    exact h.after_closed hguard
  | failed =>
    rw [houtcome] at hguard
    exact h.after_failed hguard
  | broken => exact h.after_broken

/-- A broken session that is the newest one is the newest attempt. -/
theorem Inv.broken_of_lastSession (h : s.Inv) (hlast : lastSession s.history = some .broken) :
    ∃ past, s.history = .broken :: past := by
  cases hhistory : s.history with
  | nil =>
    rw [hhistory] at hlast
    cases hlast
  | cons o past =>
    rw [hhistory] at hlast
    cases o with
    | failed => exact absurd hlast (h.ordered past hhistory)
    | closed => cases hlast
    | broken => exact ⟨past, rfl⟩

/-- A short clean session brings two attempts too close, and a failure after a broken session is
followed by too long a sleep. -/
theorem Inv.not_backsOff (h : s.Inv) (hguard : ¬ s.Unhurried fromStr wsUrl attempt) :
    ¬ (s.after attempt (outcome fromStr wsUrl attempt.connection)).BacksOff := by
  rw [Unhurried] at hguard
  cases houtcome : outcome fromStr wsUrl attempt.connection with
  | closed =>
    rw [houtcome] at hguard
    rintro ⟨hapart, -⟩
    have hclose : s.now + 500 ≤ s.now + attempt.lasts := (List.isChain_cons_cons.mp hapart).1
    exact hguard (Nat.le_of_add_le_add_left hclose)
  | failed =>
    rw [houtcome, ne_eq, not_not] at hguard
    rintro ⟨-, hsleeps⟩
    obtain ⟨past, hhistory⟩ := h.broken_of_lastSession hguard
    have hslept : s.backoff = initialBackoff := by
      apply hsleeps 0
      change failures s.history + 1 = 0 + 1
      rw [hhistory]
      rfl
    have hmore := initialBackoff_lt_of_broken past
    rw [← hhistory, ← h.backoff, hslept] at hmore
    exact lt_irrefl initialBackoff hmore
  | broken =>
    rw [houtcome] at hguard
    exact absurd trivial hguard

end Steps

/-- In every run the attempts are apart and the delays are as claimed if and only if every clean
session lasts half a second and no failure follows a broken session. -/
theorem display_backoff_iff (fromStr : String → Except SerdeError DisplayEvent)
    (wsUrl : Except DisplayError String) (attempts : List Attempt) :
    Run.Always (step fromStr wsUrl) BacksOff {} attempts ↔
      Run.Throughout (step fromStr wsUrl) (Unhurried fromStr wsUrl) {} attempts := by
  apply Run.always_iff_throughout Inv
  · exact fun _ h ↦ h.backsOff
  · exact fun _ _ _ h hguard hstep ↦ h.step hguard hstep
  · exact fun s attempt h hguard ↦ ⟨_, step_eq s attempt, h.not_backsOff hguard⟩
  · exact {
      backsOff := ⟨List.IsChain.singleton 0, fun _ hk ↦ nomatch hk⟩
      backoff := rfl
      ordered := fun _ hpast ↦ nomatch hpast }

/-- A server that accepts a connection and closes it at once. -/
def sampleHammered : List Attempt := [{ connection := .ok [.close], lasts := 20, late := 0 }]

/-- The next attempt comes after 20 milliseconds. -/
theorem closing_server_is_hammered : ¬ ∀ (fromStr : String → Except SerdeError DisplayEvent)
    (wsUrl : Except DisplayError String) (attempts : List Attempt),
    Run.Always (step fromStr wsUrl) BacksOff {} attempts := by
  intro h
  have hrun := h (fun _ ↦ .error (.invalidType "map")) (.ok "ws://h:1/ws/display?token=")
    sampleHammered
  have hend := hrun.last rfl
  exact absurd (List.isChain_cons_cons.mp hend.1).1 (by decide)

end DisplayRun

end PhoneBridge.DeskDisplay
