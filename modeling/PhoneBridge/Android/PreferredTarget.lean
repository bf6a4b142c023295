import PhoneBridge.Android.ReconnectLoop
import PhoneBridge.Android.BridgeService

/-!
# Whether the phone follows its preferences

A loop keeps the target that it was launched with, and `start` is ignored while a loop runs. So the
attempts go where the preferences observed last say as long as no loop dials again after they have
come to name another target.
-/

namespace PhoneBridge.Android

open Library Kotlinx Crypto

/-- Where a connection attempt goes, and the fingerprint that it insists on. -/
structure Target where
  host : String
  port : Int32
  pinnedFingerprint : Option String
  deriving DecidableEq, Repr

def Loop.target (loop : Loop) : Target where
  host := loop.host
  port := loop.port
  pinnedFingerprint := loop.pinnedFingerprint

/-- The target that the observed preferences name. -/
def Combined.target (seen : Combined) : Option Target :=
  match seen.host, seen.port, seen.fingerprint with
  | some (some host), some (some portStr), some pinnedFingerprint =>
    if Text.isBlank host || Text.isBlank portStr then none
    else (Text.toIntOrNull portStr).map fun port ↦ { host, port, pinnedFingerprint }
  | _, _, _ => none

/-- What the service does, and any change of the stored preferences. -/
inductive PrefsLabel
  | service (label : ServiceLabel)
  | store (prefs : Prefs)

/-- The service, what it had observed when it launched the loop, and the connection attempts that
have begun, newest first, each with what had been observed by then. -/
structure Followed where
  service : BridgeService
  launched : Combined := {}
  attempts : List (Target × Combined) := []

/-- The attempt that a step begins. -/
def attemptBegun (before after : BridgeService) : ServiceLabel → Option Loop
  | .loop _ .delayElapsed => after.client.loopJob
  | .emitted _ => if before.client.running then none else after.client.loopJob
  | _ => none

/-- What had been observed when the loop was launched, after a step. -/
def launchedAfter (launched : Combined) (before after : BridgeService) : ServiceLabel → Combined
  | .emitted _ => if before.client.running then launched else after.combined
  | _ => launched

namespace Followed

variable (platform : Platform)

def step (f : Followed) : PrefsLabel → Option Followed
  | .store prefs => some { f with service := { f.service with prefs } }
  | .service label => (f.service.step platform label).map fun service ↦ {
      service
      launched := launchedAfter f.launched f.service service label
      attempts := ((attemptBegun f.service service label).map fun loop ↦
        (loop.target, service.combined)).toList ++ f.attempts }

/-- Every attempt goes to the target of the preferences that had been observed last. -/
def UsesLatest (f : Followed) : Prop :=
  ∀ target seen, (target, seen) ∈ f.attempts → seen.target = some target

/-- A loop that dials again was launched for the target that the observed preferences name now. -/
def KeepsTarget (f : Followed) : PrefsLabel → Prop
  | .service (.loop _ .delayElapsed) => ∀ loop, f.service.client.loopJob = some loop →
      (∃ delayMs, loop.phase = .waiting delayMs) →
        f.service.combined.target = f.launched.target
  | _ => True

end Followed

/-! ## Targets -/

section Targets

variable {sha256 : List UInt8 → Digest} {lexer : Lexer} {c next : BridgeClient} {loop : Loop}
  {event : LoopEvent}

/-- The collector of `kickoff` starts the client for the target. -/
theorem Combined.kickoff_eq (seen : Combined) (client : BridgeClient) :
    seen.kickoff BridgeClient.start client = match seen.target with
      | some target => client.start target.host target.port target.pinnedFingerprint
      | none => client := by
  obtain ⟨host, port, fingerprint⟩ := seen
  rcases host with _ | _ | host
  · rfl
  · rfl
  rcases port with _ | _ | portStr
  · rfl
  · rfl
  rcases fingerprint with _ | fp
  · rfl
  simp only [kickoff, Combined.target]
  split
  · rfl
  · cases Text.toIntOrNull portStr <;> rfl

/-- The loop never changes its target. -/
theorem LoopMove.target (hjob : c.loopJob = some loop)
    (h : LoopMove sha256 lexer c loop event next) :
    ∃ after, next.loopJob = some after ∧ after.target = loop.target := by
  cases h with
  | received =>
    obtain ⟨desktopName, hreceive⟩ := c.receive_eq lexer _
    rw [hreceive]
    exact ⟨loop, hjob, rfl⟩
  | _ => exact ⟨_, rfl, rfl⟩

/-- What a call of the pairing machine sends changes the channel at most. -/
theorem BridgeService.apply_client (s : BridgeService)
    (result : Option Envelope × PairingMachine) : ∃ outgoing,
      (s.apply result).client = { s.client with outgoing } ∧
        (s.apply result).combined = s.combined := by
  unfold apply
  split
  · next env henv =>
    obtain ⟨outgoing, hsend⟩ := BridgeClient.send_eq env s.client
    exact ⟨outgoing, hsend, rfl⟩
  · exact ⟨_, rfl, rfl⟩

end Targets

namespace Followed

section Steps

variable {platform : Platform} {f next : Followed} {label : PrefsLabel} {service : BridgeService}

/-- The flag says whether a loop is active, the loop has the target that it was launched with, and
every attempt so far has used the latest target. -/
structure Aims (f : Followed) : Prop where
  active : f.service.client.running = f.service.client.loopJob.isSome
  target : ∀ loop, f.service.client.loopJob = some loop → f.launched.target = some loop.target
  uses : f.UsesLatest

/-- A step that leaves the client as it is, its channel apart. -/
theorem Aims.of_outgoing (h : f.Aims)
    (hclient : ∃ outgoing, service.client = { f.service.client with outgoing }) :
    ({ f with service } : Followed).Aims := by
  obtain ⟨outgoing, hclient⟩ := hclient
  have hactive : service.client.running = service.client.loopJob.isSome := by
    rw [hclient]
    exact h.active
  refine ⟨hactive, fun loop hloop ↦ ?_, h.uses⟩
  rw [hclient] at hloop
  exact h.target loop hloop

/-- A step that leaves the service without a loop. -/
theorem Aims.of_halted (h : f.Aims) (hrunning : service.client.running = false)
    (hjob : service.client.loopJob = none) : ({ f with service } : Followed).Aims := by
  have hactive : service.client.running = service.client.loopJob.isSome := by
    rw [hrunning, hjob]
    rfl
  refine ⟨hactive, fun loop hloop ↦ ?_, h.uses⟩
  rw [hjob] at hloop
  cases hloop

theorem UsesLatest.cons (h : f.UsesLatest) {target : Target} {seen : Combined}
    (hseen : seen.target = some target) {service : BridgeService} {launched : Combined} :
    UsesLatest { service, launched, attempts := (target, seen) :: f.attempts } := by
  intro other observed hmem
  rcases List.mem_cons.mp hmem with hnewest | hearlier
  · cases hnewest
    exact hseen
  · exact h other observed hearlier

/-- An emission launches a loop for what has been observed, or finds one running. -/
theorem Aims.emitted (h : f.Aims) (field : PrefField)
    (hstep : f.step platform (.service (.emitted field)) = some next) : next.Aims := by
  cases hstep
  set combined := f.service.combined.emit f.service.prefs field
  cases hrunning : f.service.client.running with
  | true =>
    have hsame : combined.kickoff BridgeClient.start f.service.client = f.service.client := by
      rw [Combined.kickoff_eq]
      split
      · exact BridgeClient.start_of_running _ _ _ hrunning
      · rfl
    let service : BridgeService := {
      f.service with combined, client := combined.kickoff BridgeClient.start f.service.client }
    have hkept : ({ f with service } : Followed).Aims :=
      h.of_outgoing ⟨f.service.client.outgoing, hsame⟩
    simpa [launchedAfter, attemptBegun, hrunning] using hkept
  | false =>
    have hnone := BridgeClient.loopJob_of_not_running h.active hrunning
    cases htarget : combined.target with
    | none =>
      have hsame : combined.kickoff BridgeClient.start f.service.client = f.service.client := by
        rw [Combined.kickoff_eq, htarget]
      constructor
      · simp [hsame, hnone, hrunning]
      · simp [hsame, hnone]
      · simpa [UsesLatest, attemptBegun, hsame, hnone, hrunning] using h.uses
    | some target =>
      have hstarted : combined.kickoff BridgeClient.start f.service.client =
          f.service.client.start target.host target.port target.pinnedFingerprint := by
        rw [Combined.kickoff_eq, htarget]
      rw [BridgeClient.start_of_not_running _ _ _ hrunning] at hstarted
      constructor
      · simp [hstarted]
      · intro loop hloop
        simp only [hstarted] at hloop
        cases hloop
        simpa [launchedAfter, hrunning, Loop.target] using htarget
      · simpa [attemptBegun, hrunning, hstarted, Loop.target] using h.uses.cons htarget

/-- A move of the loop keeps its target, and dials again only for the latest one. -/
theorem Aims.loop (h : f.Aims) {draws : Draws} {event : LoopEvent}
    (hkeeps : f.KeepsTarget (.service (.loop draws event)))
    (hstep : f.step platform (.service (.loop draws event)) = some next) : next.Aims := by
  obtain ⟨service, hservice, rfl⟩ := Option.map_eq_some_iff.mp hstep
  obtain ⟨client, hclient, rfl⟩ := Option.map_eq_some_iff.mp hservice
  obtain ⟨loop, hjob, hmove⟩ := BridgeClient.move_of_step _ hclient
  obtain ⟨after, hafter, htarget⟩ := hmove.target hjob
  obtain ⟨hrunning, hsome⟩ := hmove.active hjob
  set applied := BridgeService.apply { f.service with client }
    (f.service.incoming platform draws event)
  obtain ⟨outgoing, happlied, hcombined⟩ := BridgeService.apply_client
    { f.service with client } (f.service.incoming platform draws event)
  have hloop : applied.client.loopJob = some after := by
    rw [happlied]
    exact hafter
  have hlaunched : f.launched.target = some after.target := by
    rw [htarget]
    exact h.target loop hjob
  constructor
  · rw [hloop, happlied]
    change client.running = true
    rw [hrunning, h.active, hjob]
    rfl
  · intro other hother
    rw [hloop] at hother
    cases hother
    exact hlaunched
  · cases event with
    | delayElapsed =>
      cases hmove with
      | redialed hphase =>
        have hlatest := hkeeps loop hjob ⟨_, hphase⟩
        simp only [attemptBegun, hloop]
        apply h.uses.cons
        rw [hcombined]
        exact hlatest.trans hlaunched
    | _ => exact h.uses

theorem Aims.step (h : f.Aims) (hkeeps : f.KeepsTarget label)
    (hstep : f.step platform label = some next) : next.Aims := by
  cases label with
  | store prefs =>
    cases hstep
    exact ⟨h.active, h.target, h.uses⟩
  | service label =>
    cases label with
    | emitted field => exact h.emitted field hstep
    | loop draws event => exact h.loop hkeeps hstep
    | stop | forceReconnect =>
      cases hstep
      exact h.of_halted rfl rfl
    | enqueue env =>
      cases hstep
      exact h.of_outgoing (BridgeClient.send_eq env f.service.client)
    | setDesktop | collectStatus =>
      cases hstep
      exact ⟨h.active, h.target, h.uses⟩
    | connectedBlock draws =>
      obtain ⟨service, hservice, rfl⟩ := Option.map_eq_some_iff.mp hstep
      simp only [BridgeService.step] at hservice
      split at hservice
      · cases hservice
        exact h.of_outgoing (BridgeClient.send_eq _ f.service.client)
      · cases hservice
    | initiate | userAccepts | userRejects =>
      cases hstep
      obtain ⟨outgoing, happlied, -⟩ := BridgeService.apply_client f.service _
      exact h.of_outgoing ⟨outgoing, happlied⟩

end Steps

/-- The preferences of a paired phone. -/
def samplePrefs : Prefs where
  desktopHost := some "10.0.0.2"
  desktopPort := some "8443"

end Followed

end PhoneBridge.Android
