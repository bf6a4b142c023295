import PhoneBridge.Android.BridgeClient
import PhoneBridge.Library.Run

/-!
# Whether the phone keeps trying

`start` asks for a connection and `stop` gives it up; in between a reconnect loop should be active.
`forceReconnect` cancels the loop and leaves it to a later `start` to launch another one.
-/

namespace PhoneBridge.Android

open Library Kotlinx Crypto

/-- The client, and whether `start` has been called and `stop` has not been called since. -/
structure Driven where
  client : BridgeClient := {}
  wanted : Bool := false

/-- Whether a connection is asked for after a step. -/
def wantedAfter (wanted : Bool) : ClientLabel → Bool
  | .start .. => true
  | .stop => false
  | .forceReconnect | .send _ | .loop _ => wanted

namespace Driven

def step (sha256 : List UInt8 → Digest) (lexer : Lexer) (d : Driven) (label : ClientLabel) :
    Option Driven :=
  (d.client.step sha256 lexer label).map fun client ↦
    { client, wanted := wantedAfter d.wanted label }

/-- A reconnect loop is active when a connection is asked for. -/
def KeepsTrying (d : Driven) : Prop := d.wanted = true → d.client.loopJob.isSome = true

/-- The step does not force the reconnect of a client that a connection is asked of. -/
def NotForced (d : Driven) : ClientLabel → Prop
  | .forceReconnect => d.wanted = false
  | _ => True

/-- The flag and the job say the same as the calls. -/
structure InStep (d : Driven) : Prop where
  running : d.client.running = d.wanted
  loopJob : d.client.loopJob.isSome = d.wanted

variable {sha256 : List UInt8 → Digest} {lexer : Lexer} {d next : Driven} {label : ClientLabel}

theorem step_eq_some : d.step sha256 lexer label = some next ↔
    d.client.step sha256 lexer label = some next.client ∧
      next.wanted = wantedAfter d.wanted label := by
  obtain ⟨client, wanted⟩ := next
  simp [step, @eq_comm _ wanted]

end Driven

/-- The loop itself neither ends nor clears the flag. -/
theorem LoopMove.active {sha256 : List UInt8 → Digest} {lexer : Lexer} {c next : BridgeClient}
    {loop : Loop} {event : LoopEvent} (hjob : c.loopJob = some loop)
    (h : LoopMove sha256 lexer c loop event next) :
    next.running = c.running ∧ next.loopJob.isSome = true := by
  cases h with
  | received =>
    obtain ⟨desktopName, hreceive⟩ := c.receive_eq lexer _
    rw [hreceive]
    exact ⟨rfl, congrArg Option.isSome hjob⟩
  | _ => exact ⟨rfl, rfl⟩

namespace Driven

variable {sha256 : List UInt8 → Digest} {lexer : Lexer} {d next : Driven} {label : ClientLabel}

/-- Every step but a forced reconnect keeps the flag and the job in step with the calls. -/
theorem InStep.step (h : d.InStep) (hforced : d.NotForced label)
    (hstep : d.step sha256 lexer label = some next) : next.InStep := by
  obtain ⟨hclient, hwanted⟩ := step_eq_some.mp hstep
  cases label with
  | start host port pinnedFingerprint =>
    have hnext : next.client = d.client.start host port pinnedFingerprint :=
      (Option.some.inj hclient).symm
    cases hrunning : d.client.running with
    | true =>
      have hsame : next.client = d.client :=
        hnext.trans (BridgeClient.start_of_running host port pinnedFingerprint hrunning)
      have hasked : d.wanted = true := h.running.symm.trans hrunning
      exact ⟨by simp [hsame, hwanted, wantedAfter, hrunning],
        by simp [hsame, hwanted, wantedAfter, h.loopJob, hasked]⟩
    | false =>
      rw [BridgeClient.start_of_not_running host port pinnedFingerprint hrunning] at hnext
      exact ⟨by simp [hnext, hwanted, wantedAfter],
        by simp [hnext, hwanted, wantedAfter]⟩
  | stop =>
    have hnext : next.client = d.client.stop := (Option.some.inj hclient).symm
    exact ⟨by simp [hnext, hwanted, wantedAfter, BridgeClient.stop],
      by simp [hnext, hwanted, wantedAfter, BridgeClient.stop]⟩
  | forceReconnect =>
    have hnext : next.client = d.client.forceReconnect := (Option.some.inj hclient).symm
    have hunwanted : d.wanted = false := hforced
    exact ⟨by simp [hnext, hwanted, wantedAfter, BridgeClient.forceReconnect, hunwanted],
      by simp [hnext, hwanted, wantedAfter, BridgeClient.forceReconnect, hunwanted]⟩
  | send env =>
    have hnext : next.client = (d.client.send env).2 := (Option.some.inj hclient).symm
    have hkept : next.client.running = d.client.running ∧
        next.client.loopJob = d.client.loopJob := by
      rw [hnext, BridgeClient.send]
      split <;> exact ⟨rfl, rfl⟩
    exact ⟨hkept.1.trans (h.running.trans hwanted.symm),
      (congrArg _ hkept.2).trans (h.loopJob.trans hwanted.symm)⟩
  | loop event =>
    obtain ⟨loop, hjob, hmove⟩ := BridgeClient.move_of_step sha256 hclient
    obtain ⟨hrunning, hactive⟩ := hmove.active hjob
    have hasked : d.wanted = true := h.loopJob.symm.trans (congrArg Option.isSome hjob)
    exact ⟨hrunning.trans (h.running.trans hwanted.symm),
      hactive.trans (hasked.symm.trans hwanted.symm)⟩

/-- A forced reconnect leaves no loop behind. -/
theorem not_keepsTrying_of_forced (hforced : ¬ d.NotForced label) :
    ∃ next, d.step sha256 lexer label = some next ∧ ¬ next.KeepsTrying := by
  cases label with
  | forceReconnect =>
    refine ⟨_, rfl, fun hactive ↦ ?_⟩
    have hnone := hactive (Bool.not_eq_false _ ▸ hforced : d.wanted = true)
    cases hnone
  | _ => exact absurd trivial hforced

/-- The phone keeps trying in every state of a run if and only if no reconnect is forced while a
connection is asked for. -/
theorem keeps_trying_iff (sha256 : List UInt8 → Digest) (lexer : Lexer)
    (labels : List ClientLabel) :
    Run.Always (step sha256 lexer) KeepsTrying {} labels ↔
      Run.Throughout (step sha256 lexer) NotForced {} labels :=
  Run.always_iff_throughout InStep (fun _ h hwanted ↦ h.loopJob.trans hwanted)
    (fun _ _ _ h hforced hstep ↦ h.step hforced hstep)
    (fun _ _ _ hforced ↦ not_keepsTrying_of_forced hforced) ⟨rfl, rfl⟩

/-- Three missed heartbeats in the first session. -/
def sampleForced : List ClientLabel :=
  [.start "10.0.0.2" 8443 none, .loop (.dialed (.upgraded [])), .forceReconnect]

/-- The forced reconnect of a connected phone leaves it without a loop. -/
theorem forced_reconnect_stops_trying : ¬ ∀ (sha256 : List UInt8 → Digest) (lexer : Lexer)
    (labels : List ClientLabel), Run.Always (step sha256 lexer) KeepsTrying {} labels := by
  intro h
  have hend := (h sampleSha256 sampleLexer sampleForced).last rfl
  exact absurd (hend rfl) (by decide)

/-! ## After a forced reconnect -/

/-- The client has no loop, and waits for a `start`. -/
structure IsDead (c : BridgeClient) : Prop where
  running : c.running = false
  loopJob : c.loopJob = none

/-- Nothing but a `start` revives the client. -/
def IsStart : ClientLabel → Prop
  | .start .. => True
  | _ => False

theorem IsDead.step {c next : BridgeClient} (h : IsDead c) (hstart : ¬ IsStart label)
    (hstep : c.step sha256 lexer label = some next) : IsDead next := by
  cases label with
  | start => exact absurd trivial hstart
  | stop | forceReconnect =>
    cases hstep
    exact ⟨rfl, rfl⟩
  | send env =>
    cases hstep
    rw [BridgeClient.send]
    split
    · exact ⟨h.running, h.loopJob⟩
    · exact h
  | loop event => simp [BridgeClient.step, h.loopJob] at hstep

/-- A client whose reconnect was forced has no loop until it is started again. -/
theorem dead_until_started {c : BridgeClient} {labels : List ClientLabel}
    (hstart : ∀ label ∈ labels, ¬ IsStart label) :
    Run.Always (BridgeClient.step sha256 lexer) IsDead c.forceReconnect labels := by
  have hguard : Run.Throughout (BridgeClient.step sha256 lexer) (fun _ label ↦ ¬ IsStart label)
      c.forceReconnect labels :=
    Run.throughout_of_at_step fun front label back t hsplit _ ↦ hstart label (by simp [hsplit])
  exact Run.always_of_throughout IsDead (fun _ h ↦ h) (fun _ _ _ h hstart hstep ↦ h.step hstart hstep)
    hguard ⟨rfl, rfl⟩

end Driven

end PhoneBridge.Android
