import PhoneBridge.Android.ReconnectLoop
import PhoneBridge.Library.Backoff

/-!
# The delays of the reconnect loop

A session that ends normally resets the counter of `runLoop`, and is then counted itself. A session
that ends by an exception only counts. So the delays are those of the failures since the last
session as long as no session has come before a failure or before a session that breaks.
-/

namespace PhoneBridge.Android

open Library Kotlinx Crypto Backoff

/-- The client, and how the attempts of its loop have ended, newest first. -/
structure Paced where
  client : BridgeClient := {}
  history : List Outcome := []

/-- The outcome of the attempt that a step ends. -/
def endedBy (after : BridgeClient) : ClientLabel → Option Outcome
  | .loop (.dialed _) =>
    match after.loopJob.map Loop.phase with
    | some (.waiting _) => some .failed
    | _ => none
  | .loop (.sessionEnded none) => some .closed
  | .loop (.sessionEnded (some _)) => some .broken
  | _ => none

namespace Paced

/-- A step of a client that is neither stopped nor forced to reconnect. -/
def step (sha256 : List UInt8 → Digest) (lexer : Lexer) (s : Paced) (label : ClientLabel) :
    Option Paced :=
  match label with
  | .stop | .forceReconnect => none
  | label => (s.client.step sha256 lexer label).map fun client ↦
      { client, history := (endedBy client label).toList ++ s.history }

/-- The delay after these attempts: the minimum after a session, and otherwise by the failures since
the last one. -/
def claimedDelay (history : List Outcome) : Nat :=
  match failures history with
  | 0 => 1000
  | k => 500 * 2 ^ min k 8

/-- The loop waits for as long as it should. -/
def WaitsAsClaimed (s : Paced) : Prop := ∀ loop, s.client.loopJob = some loop →
  ∀ delayMs, loop.phase = .waiting delayMs → delayMs = claimedDelay s.history

/-- No attempt fails after a session, and a session that breaks is the first attempt. -/
def KeepsPace (sha256 : List UInt8 → Digest) (s : Paced) : ClientLabel → Prop
  | .loop (.dialed answer) => ∀ loop, s.client.loopJob = some loop → loop.phase = .dialing →
      (∃ message, loop.dial sha256 answer = .error message) → ∀ o ∈ s.history, o = .failed
  | .loop (.sessionEnded (some _)) => ∀ loop, s.client.loopJob = some loop →
      (∃ session, loop.phase = .pumping session) → s.history = []
  | _ => True

end Paced

/-! ## The counter -/

/-- What the counter of the loop says after these attempts, but for its bound. -/
def passes : List Outcome → Nat
  | [] => 0
  | .closed :: _ => 1
  | _ :: past => passes past + 1

theorem passes_of_forall {history : List Outcome} (h : ∀ o ∈ history, o = .failed) :
    passes history = failures history := by
  induction history with
  | nil => rfl
  | cons o past ih =>
    rw [List.forall_mem_cons] at h
    rw [h.1, passes, failures, ih h.2]
    intro hclosed
    cases hclosed

theorem passes_pos {history : List Outcome} (h : history ≠ []) : 0 < passes history := by
  cases history with
  | nil => exact absurd rfl h
  | cons o past => cases o <;> simp [passes]

/-- The delay that the loop computes, in terms of the attempts. -/
theorem delay_eq_minimum_iff (n : Nat) : 500 * 2 ^ min (min n 8 + 1) 8 = 1000 ↔ n = 0 := by
  constructor
  · intro h
    by_contra hn
    have htwo : 2 ≤ min (min n 8 + 1) 8 := by omega
    have hfour : 2 ^ 2 ≤ 2 ^ min (min n 8 + 1) 8 := Nat.pow_le_pow_right (by decide) htwo
    omega
  · rintro rfl
    rfl

/-! ## The steps -/

namespace Paced

/-- The counter counts the attempts, the loop waits as it should, and no session has come before a
failure. -/
structure OnPace (s : Paced) : Prop where
  running : s.client.running = s.client.loopJob.isSome
  fresh : s.client.loopJob = none → s.history = []
  attempt : ∀ loop, s.client.loopJob = some loop → loop.attempt = min (passes s.history) 8
  waits : s.WaitsAsClaimed
  ordered : ∀ past, s.history = .failed :: past → ∀ o ∈ past, o = .failed

section Steps

variable {sha256 : List UInt8 → Digest} {lexer : Lexer} {s t : Paced} {label : ClientLabel}
  {loop : Loop} {client : BridgeClient} {event : LoopEvent}

theorem step_eq_some (h : s.step sha256 lexer label = some t) :
    ∃ client, s.client.step sha256 lexer label = some client ∧
      t = { client, history := (endedBy client label).toList ++ s.history } := by
  cases label with
  | stop => cases h
  | forceReconnect => cases h
  | _ =>
    simp only [step, Option.map_eq_some_iff] at h
    obtain ⟨client, hclient, rfl⟩ := h
    exact ⟨client, hclient, rfl⟩

/-- A step that ends no attempt and leaves the counter and the phase. -/
theorem OnPace.of_same (h : s.OnPace) (hjob : s.client.loopJob = some loop) {phase : LoopPhase}
    (hloop : t.client.loopJob = some { loop with phase })
    (hphase : ∀ delayMs, phase ≠ .waiting delayMs)
    (hrunning : t.client.running = s.client.running) (hhistory : t.history = s.history) :
    t.OnPace where
  running := by rw [hrunning, h.running, hjob, hloop]; rfl
  fresh hnone := by rw [hloop] at hnone; cases hnone
  attempt other hother := by
    rw [hloop] at hother
    cases hother
    rw [hhistory]
    exact h.attempt loop hjob
  waits other hother delayMs hwaiting := by
    rw [hloop] at hother
    cases hother
    exact absurd hwaiting (hphase delayMs)
  ordered := by rw [hhistory]; exact h.ordered

/-- An attempt ends: the counter moves on, and the loop waits. -/
theorem OnPace.of_backOff (h : s.OnPace) (hjob : s.client.loopJob = some loop) {o : Outcome}
    {counted : Loop} (hloop : t.client.loopJob = some counted.backOff)
    (hcount : counted.attempt + 1 = passes (o :: s.history) ∨
      counted.attempt = min (passes s.history) 8 ∧ passes (o :: s.history) = passes s.history + 1)
    (hrunning : t.client.running = s.client.running) (hhistory : t.history = o :: s.history)
    (hdelay : 500 * 2 ^ min (counted.attempt + 1) 8 = claimedDelay (o :: s.history))
    (hordered : o = .failed → ∀ o ∈ s.history, o = .failed) : t.OnPace where
  running := by rw [hrunning, h.running, hjob, hloop]; rfl
  fresh hnone := by rw [hloop] at hnone; cases hnone
  attempt other hother := by
    rw [hloop] at hother
    cases hother
    rw [hhistory]
    change min (counted.attempt + 1) 8 = _
    omega
  waits other hother delayMs hwaiting := by
    rw [hloop] at hother
    cases hother
    cases hwaiting
    rw [hhistory]
    exact hdelay
  ordered past hpast := by
    rw [hhistory] at hpast
    cases hpast
    exact hordered rfl

theorem OnPace.of_move (h : s.OnPace) (hkeeps : KeepsPace sha256 s (.loop event))
    (hjob : s.client.loopJob = some loop)
    (hmove : LoopMove sha256 lexer s.client loop event client) :
    OnPace { client, history := (endedBy client (.loop event)).toList ++ s.history } := by
  have hattempt := h.attempt loop hjob
  cases hmove with
  | refused hphase hdial =>
    have hfailed := hkeeps loop hjob hphase ⟨_, hdial⟩
    refine h.of_backOff (o := .failed) hjob rfl (.inr ⟨hattempt, rfl⟩) rfl rfl ?_ fun _ ↦ hfailed
    rw [hattempt, claimedDelay, failures, passes_of_forall hfailed]
    congr 2
    omega
  | opened hphase hdial => exact h.of_same hjob rfl (by simp) rfl rfl
  | closed hphase => exact h.of_backOff (o := .closed) hjob rfl (.inl rfl) rfl rfl rfl (by simp)
  | broken hphase =>
    have hempty := hkeeps loop hjob ⟨_, hphase⟩
    refine h.of_backOff (o := .broken) hjob rfl (.inr ⟨hattempt, rfl⟩) rfl rfl ?_ (by simp)
    rw [hattempt, hempty]
    rfl
  | redialed hphase => exact h.of_same hjob rfl (by simp) rfl rfl
  | taken hphase houtgoing hfree => exact h.of_same hjob rfl (by simp) rfl rfl
  | transmitted hphase htaken => exact h.of_same hjob rfl (by simp) rfl rfl
  | @received session frame hphase =>
    obtain ⟨desktopName, hreceive⟩ := BridgeClient.receive_eq lexer frame s.client
    rw [hreceive]
    have hloop : s.client.loopJob = some { loop with phase := .pumping session } := by
      rw [hjob, ← hphase]
    exact h.of_same hjob hloop (by simp) rfl rfl

/-- A client that does not run yet has a new loop, and no attempt has ended. -/
theorem OnPace.started (h : s.OnPace) (hrunning : s.client.running = false) (host : String)
    (port : Int32) (pinnedFingerprint : Option String) :
    OnPace { s with client := s.client.start host port pinnedFingerprint } := by
  have hempty := h.fresh (BridgeClient.loopJob_of_not_running h.running hrunning)
  rw [BridgeClient.start_of_not_running host port pinnedFingerprint hrunning]
  constructor
  case running => rfl
  case fresh => exact fun _ ↦ hempty
  case attempt =>
    intro loop hloop
    cases hloop
    rw [hempty]
    rfl
  case waits =>
    intro loop hloop delayMs hwaiting
    cases hloop
    cases hwaiting
  case ordered =>
    intro past hpast
    rw [hempty] at hpast
    cases hpast

theorem OnPace.step (h : s.OnPace) (hkeeps : KeepsPace sha256 s label)
    (hstep : s.step sha256 lexer label = some t) : t.OnPace := by
  obtain ⟨client, hclient, rfl⟩ := step_eq_some hstep
  cases label with
  | start host port pinnedFingerprint =>
    obtain rfl := Option.some.inj hclient
    cases hrunning : s.client.running with
    | true =>
      rw [BridgeClient.start_of_running host port pinnedFingerprint hrunning]
      exact h
    | false => exact h.started hrunning host port pinnedFingerprint
  | stop => cases hstep
  | forceReconnect => cases hstep
  | send env =>
    obtain rfl := Option.some.inj hclient
    obtain ⟨outgoing, hsend⟩ := BridgeClient.send_eq env s.client
    rw [hsend]
    exact ⟨h.running, h.fresh, h.attempt, h.waits, h.ordered⟩
  | loop event =>
    obtain ⟨loop, hjob, hmove⟩ := BridgeClient.move_of_step sha256 hclient
    exact h.of_move hkeeps hjob hmove

/-- Where a session has come before, a loop that counts on waits for more than the minimum. -/
theorem backOff_ne_minimum (h : s.OnPace) (hjob : s.client.loopJob = some loop)
    (hhistory : s.history ≠ []) : 500 * 2 ^ min (loop.attempt + 1) 8 ≠ 1000 := by
  rw [h.attempt loop hjob, ne_eq, delay_eq_minimum_iff]
  have hpos := passes_pos hhistory
  omega

/-- A failure after a session is the first one since, so that the loop should wait for the
minimum. -/
theorem claimedDelay_failed (h : s.OnPace) {o : Outcome} (ho : o ∈ s.history)
    (hsession : o ≠ .failed) : claimedDelay (.failed :: s.history) = 1000 := by
  cases hhistory : s.history with
  | nil => rfl
  | cons newest past =>
    cases newest with
    | failed =>
      have hall := h.ordered past hhistory
      rw [hhistory, List.mem_cons] at ho
      exact absurd (ho.elim id (hall o)) hsession
    | _ => rfl

/-- A failure after a session, or a session that breaks after another attempt, makes the loop wait
for too long. -/
theorem not_waitsAsClaimed (h : s.OnPace) (hkeeps : ¬ KeepsPace sha256 s label) :
    ∃ t, s.step sha256 lexer label = some t ∧ ¬ t.WaitsAsClaimed := by
  cases label with
  | loop event =>
    cases event with
    | dialed answer =>
      simp only [KeepsPace, Classical.not_forall] at hkeeps
      obtain ⟨loop, hjob, hphase, ⟨message, hdial⟩, o, ho, hsession⟩ := hkeeps
      refine ⟨{
        client := { s.client with status := .error message, loopJob := some loop.backOff }
        history := .failed :: s.history }, ?_, fun hwaits ↦ ?_⟩
      · simp [step, BridgeClient.step, BridgeClient.advance, hjob, hphase, hdial, endedBy,
          Loop.backOff]
      · have hdelay := hwaits _ rfl _ rfl
        apply backOff_ne_minimum h hjob (List.ne_nil_of_mem ho)
        rw [hdelay, claimedDelay_failed h ho hsession]
    | sessionEnded error =>
      cases error with
      | none => exact absurd trivial hkeeps
      | some message =>
        simp only [KeepsPace, Classical.not_forall] at hkeeps
        obtain ⟨loop, hjob, ⟨session, hphase⟩, hhistory⟩ := hkeeps
        refine ⟨{
          client := { s.client with status := .error message, loopJob := some loop.backOff }
          history := .broken :: s.history }, ?_, fun hwaits ↦ ?_⟩
        · simp [step, BridgeClient.step, BridgeClient.advance, hjob, hphase, endedBy]
        · exact backOff_ne_minimum h hjob hhistory (hwaits _ rfl _ rfl)
    | _ => exact absurd trivial hkeeps
  | _ => exact absurd trivial hkeeps

end Steps

/-- In every run without a stop the loop waits as long as it should if and only if no attempt fails
after a session and only a first session breaks. -/
theorem reconnect_delays_iff (sha256 : List UInt8 → Digest) (lexer : Lexer)
    (labels : List ClientLabel) :
    Run.Always (step sha256 lexer) WaitsAsClaimed {} labels ↔
      Run.Throughout (step sha256 lexer) (KeepsPace sha256) {} labels := by
  apply Run.always_iff_throughout OnPace
  · exact fun _ h ↦ h.waits
  · exact fun _ _ _ h hkeeps hstep ↦ h.step hkeeps hstep
  · exact fun _ _ h hkeeps ↦ not_waitsAsClaimed h hkeeps
  · exact {
      running := rfl
      fresh := fun _ ↦ rfl
      attempt := fun _ hloop ↦ nomatch hloop
      waits := fun _ hloop ↦ nomatch hloop
      ordered := fun _ hpast ↦ nomatch hpast }

/-- A connection that takes two attempts and is then lost. -/
def sampleLost : List ClientLabel :=
  [.start "10.0.0.2" 8443 none, .loop (.dialed (.failed "refused")), .loop .delayElapsed,
    .loop (.dialed (.upgraded [])), .loop (.sessionEnded (some "connection reset"))]

/-- After the session the loop waits for two seconds. -/
theorem lost_session_keeps_backoff : ¬ ∀ (sha256 : List UInt8 → Digest) (lexer : Lexer)
    (labels : List ClientLabel), Run.Always (step sha256 lexer) WaitsAsClaimed {} labels := by
  intro h
  have hend := (h sampleSha256 sampleLexer sampleLost).last rfl
  exact absurd (hend _ rfl _ rfl) (by decide)

end Paced

end PhoneBridge.Android
