import PhoneBridge.Android.BridgeService

/-!
# Trust on first use

What the phone has seen of the centers in a run of the service: the sessions it opened and the
pairings it completed. A later session to the same center should be TLS with the fingerprint seen
first. Without a stored fingerprint every session is cleartext and reports the empty fingerprint,
which is never persisted, and a completed pairing stores none; so no later session is pinned.
-/

namespace PhoneBridge.Android

open Library Kotlinx Crypto

/-- A session that has reached Connected, or a pairing that has reached Paired, with a center. -/
inductive Sighting
  | opened (host : String) (port : Int32) (session : Session)
  | paired (host : String) (port : Int32) (peerFingerprint : String)

namespace Sighting

/-- The address at which the phone dialed the center. -/
def center : Sighting → String × Int32
  | .opened host port _ => (host, port)
  | .paired host port _ => (host, port)

/-- The fingerprint of the center that the phone got to know. -/
def fingerprint (sha256 : List UInt8 → Digest) : Sighting → String
  | .opened _ _ session => session.actualFp sha256
  | .paired _ _ peerFingerprint => peerFingerprint

/-- The later sighting, when it is a session with the same center, is TLS and shows the fingerprint
of the earlier one. -/
def Pins (sha256 : List UInt8 → Digest) (later earlier : Sighting) : Prop :=
  ∀ host port session, later = .opened host port session → earlier.center = (host, port) →
    session.tls = true ∧ session.actualFp sha256 = earlier.fingerprint sha256

end Sighting

/-- The service, and what the phone has seen of the centers, newest first. -/
structure Watched where
  service : BridgeService
  seen : List Sighting := []

/-- What a step shows: the session that it opens, or the pairing that it completes. -/
def sighting (before after : BridgeService) (label : ServiceLabel) : Option Sighting :=
  match label, after.client.loopJob with
  | .loop _ (.dialed _), some loop =>
    match loop.phase with
    | .pumping session => some (.opened loop.host loop.port session)
    | _ => none
  | .loop _ (.received _), some loop =>
    match after.pairing.state with
    | .paired _ _ peerFingerprint =>
      if after.pairing.state = before.pairing.state then none
      else some (.paired loop.host loop.port peerFingerprint)
    | _ => none
  | _, _ => none

namespace Watched

def step (platform : Platform) (w : Watched) (label : ServiceLabel) : Option Watched :=
  (w.service.step platform label).map fun service ↦
    { service, seen := (sighting w.service service label).toList ++ w.seen }

/-- Every session with a center is pinned to what was seen of the center before. -/
def TrustsFirstUse (platform : Platform) (w : Watched) : Prop :=
  w.seen.Pairwise (Sighting.Pins platform.sha256)

/-- The step opens no session with a center that the phone has seen before. -/
def OpensUnseen (w : Watched) : ServiceLabel → Prop
  | .loop _ (.dialed (.upgraded _)) => ∀ loop, w.service.client.loopJob = some loop →
      loop.phase = .dialing → ∀ earlier ∈ w.seen, earlier.center ≠ (loop.host, loop.port)
  | _ => True

end Watched

/-! ## Nothing is ever pinned -/

/-- A client without a pin; a connection has reported no fingerprint. -/
structure BridgeClient.Unpinned (c : BridgeClient) : Prop where
  loopJob : ∀ loop, c.loopJob = some loop → loop.pinnedFingerprint = none
  status : ∀ host port fingerprint, c.status = .connected host port fingerprint → fingerprint = ""

/-- A service without a stored fingerprint, whose client has no pin. -/
structure BridgeService.Unpinned (s : BridgeService) : Prop where
  stored : s.prefs.fingerprint = none
  emitted : ∀ fingerprint, s.combined.fingerprint = some fingerprint → fingerprint = none
  collected : ∀ host port fingerprint,
    s.collected = some (.connected host port fingerprint) → fingerprint = ""
  client : s.client.Unpinned

section Client

variable {sha256 : List UInt8 → Digest} {lexer : Lexer} {c next : BridgeClient} {loop : Loop}
  {event : LoopEvent} {answer : Answer} {session : Session}

/-- A dial without a pin opens a cleartext session, whatever the server presents. -/
theorem Loop.dial_unpinned (hpin : loop.pinnedFingerprint = none)
    (h : loop.dial sha256 answer = .ok session) : session = { tls := false, lastChain := [] } := by
  cases answer with
  | failed message => cases h
  | upgraded chain =>
    simp only [dial, hpin] at h
    exact (Except.ok.inj h).symm

namespace BridgeClient.Unpinned

theorem start (h : c.Unpinned) (host : String) (port : Int32) :
    (c.start host port none).Unpinned := by
  unfold BridgeClient.start
  split
  · exact h
  · refine ⟨?_, by simp⟩
    rintro loop ⟨⟩
    rfl

theorem stop (c : BridgeClient) : c.stop.Unpinned :=
  ⟨by simp [BridgeClient.stop], by simp [BridgeClient.stop]⟩

theorem forceReconnect (h : c.Unpinned) : c.forceReconnect.Unpinned := by
  refine ⟨by simp [BridgeClient.forceReconnect], fun host port fingerprint hstatus ↦ ?_⟩
  simp only [BridgeClient.forceReconnect, cancelledStatus] at hstatus
  split at hstatus
  · exact h.status _ _ _ hstatus
  · split at hstatus
    · exact h.status _ _ _ hstatus
    · cases hstatus
    · cases hstatus

theorem send (h : c.Unpinned) (env : Envelope) : (c.send env).2.Unpinned := by
  unfold BridgeClient.send
  split
  · exact ⟨h.loopJob, h.status⟩
  · exact h

theorem move (h : c.Unpinned) (hjob : c.loopJob = some loop)
    (hmove : LoopMove sha256 lexer c loop event next) : next.Unpinned := by
  have hpin := h.loopJob loop hjob
  cases hmove with
  | refused => exact ⟨by rintro _ ⟨⟩; exact hpin, by simp⟩
  | opened hphase hdial =>
    refine ⟨by rintro _ ⟨⟩; exact hpin, ?_⟩
    rintro host port fingerprint ⟨⟩
    rw [Loop.dial_unpinned hpin hdial]
    rfl
  | closed | transmitted | taken => exact ⟨by rintro _ ⟨⟩; exact hpin, h.status⟩
  | broken | redialed => exact ⟨by rintro _ ⟨⟩; exact hpin, by simp⟩
  | received =>
    obtain ⟨desktopName, hreceive⟩ := c.receive_eq lexer _
    rw [hreceive]
    exact ⟨h.loopJob, h.status⟩

end BridgeClient.Unpinned

end Client

namespace BridgeService.Unpinned

variable {platform : Platform} {s next : BridgeService} {label : ServiceLabel}

theorem send (h : s.Unpinned) (env : Envelope) : (s.send env).Unpinned :=
  ⟨h.stored, h.emitted, h.collected, h.client.send env⟩

theorem apply (h : s.Unpinned) (result : Option Envelope × PairingMachine) :
    (s.apply result).Unpinned := by
  have hpairing : ({ s with pairing := result.2 } : BridgeService).Unpinned :=
    ⟨h.stored, h.emitted, h.collected, h.client⟩
  unfold BridgeService.apply
  split
  · exact hpairing.send _
  · exact hpairing

theorem kickoff {seen : Combined} {client : BridgeClient} (hclient : client.Unpinned)
    (hseen : ∀ fingerprint, seen.fingerprint = some fingerprint → fingerprint = none) :
    (seen.kickoff BridgeClient.start client).Unpinned := by
  unfold Combined.kickoff
  split
  · next fp _ _ hfp =>
    split
    · exact hclient
    · split
      · rw [hseen fp hfp]
        exact hclient.start _ _
      · exact hclient
  · exact hclient

/-- No step stores a fingerprint or pins one. -/
theorem step (h : s.Unpinned) (hstep : s.step platform label = some next) : next.Unpinned := by
  cases label with
  | loop draws event =>
    obtain ⟨client, hclient, rfl⟩ := Option.map_eq_some_iff.mp hstep
    obtain ⟨loop, hjob, hmove⟩ := BridgeClient.move_of_step _ hclient
    have hmoved : ({ s with client } : BridgeService).Unpinned :=
      ⟨h.stored, h.emitted, h.collected, h.client.move hjob hmove⟩
    exact hmoved.apply _
  | stop =>
    cases hstep
    exact ⟨h.stored, h.emitted, h.collected, BridgeClient.Unpinned.stop s.client⟩
  | forceReconnect =>
    cases hstep
    exact ⟨h.stored, h.emitted, h.collected, h.client.forceReconnect⟩
  | enqueue env =>
    cases hstep
    exact h.send env
  | setDesktop host port =>
    cases hstep
    exact ⟨h.stored, h.emitted, h.collected, h.client⟩
  | emitted field =>
    cases hstep
    have hseen : ∀ fingerprint, (s.combined.emit s.prefs field).fingerprint = some fingerprint →
        fingerprint = none := by
      cases field with
      | host | port => exact h.emitted
      | fingerprint =>
        rintro fingerprint ⟨⟩
        exact h.stored
    exact ⟨h.stored, hseen, h.collected, kickoff h.client hseen⟩
  | collectStatus =>
    cases hstep
    refine ⟨h.stored, h.emitted, fun host port fingerprint hstatus ↦ ?_, h.client⟩
    exact h.client.status host port fingerprint (Option.some.inj hstatus)
  | connectedBlock draws =>
    simp only [BridgeService.step] at hstep
    split at hstep
    · next host port fingerprint hcollected =>
      cases hstep
      have hempty := h.collected host port fingerprint hcollected
      have hstored : (persistFingerprint fingerprint s.prefs).fingerprint = none := by
        simp [persistFingerprint, hempty, h.stored]
      exact ⟨hstored, h.emitted, by simp, h.client.send _⟩
    · cases hstep
  | initiate | userAccepts | userRejects =>
    cases hstep
    exact h.apply _

end BridgeService.Unpinned

/-! ## What a step shows -/

section Sightings

variable {platform : Platform} {s next : BridgeService} {label : ServiceLabel}

@[simp]
theorem BridgeClient.loopJob_send (c : BridgeClient) (env : Envelope) :
    (c.send env).2.loopJob = c.loopJob := by
  unfold BridgeClient.send
  split <;> rfl

@[simp]
theorem BridgeService.loopJob_apply (s : BridgeService) (result : Option Envelope × PairingMachine) :
    (s.apply result).client.loopJob = s.client.loopJob := by
  unfold BridgeService.apply
  split <;> simp [BridgeService.send]

/-- A session is opened by a dial of the active loop, at the address of the loop. -/
theorem dialed_of_opened {host : String} {port : Int32} {session : Session}
    (hstep : s.step platform label = some next)
    (h : sighting s next label = some (.opened host port session)) :
    ∃ draws chain loop, label = .loop draws (.dialed (.upgraded chain)) ∧
      s.client.loopJob = some loop ∧ loop.phase = .dialing ∧ host = loop.host ∧ port = loop.port := by
  unfold sighting at h
  split at h
  · next draws answer active hactive =>
    obtain ⟨client, hclient, rfl⟩ := Option.map_eq_some_iff.mp hstep
    obtain ⟨loop, hjob, hmove⟩ := BridgeClient.move_of_step _ hclient
    rw [BridgeService.loopJob_apply] at hactive
    cases hmove with
    | refused =>
      cases hactive
      cases h
    | opened hphase hdial =>
      cases hactive
      cases h
      cases answer with
      | failed message => cases hdial
      | upgraded chain => exact ⟨draws, chain, loop, rfl, hjob, hphase, rfl, rfl⟩
  · split at h
    · split at h <;> cases h
    · cases h
  · cases h

/-- A dial of an unpinned loop that is answered opens a cleartext session. -/
theorem opened_of_dialed (h : s.Unpinned) {loop : Loop} (hjob : s.client.loopJob = some loop)
    (hphase : loop.phase = .dialing) (draws : Draws) (chain : List Der) :
    ∃ next, s.step platform (.loop draws (.dialed (.upgraded chain))) = some next ∧
      sighting s next (.loop draws (.dialed (.upgraded chain))) =
        some (.opened loop.host loop.port { tls := false, lastChain := [] }) := by
  have hdial : loop.dial platform.sha256 (.upgraded chain) =
      .ok { tls := false, lastChain := [] } := by
    simp [Loop.dial, h.client.loopJob loop hjob]
  have hclient : s.client.step platform.sha256 platform.lexer
      (.loop (.dialed (.upgraded chain))) = some { s.client with
        status := .connected loop.host loop.port ""
        loopJob := some { loop with phase := .pumping { tls := false, lastChain := [] } } } := by
    simp only [BridgeClient.step, hjob, BridgeClient.advance, hphase, hdial]
    rfl
  refine ⟨_, Option.map_eq_some_iff.mpr ⟨_, hclient, rfl⟩, ?_⟩
  simp [sighting]

end Sightings

namespace Watched

variable {platform : Platform} {w next : Watched} {label : ServiceLabel}

theorem step_eq_some : w.step platform label = some next ↔
    w.service.step platform label = some next.service ∧
      next.seen = (sighting w.service next.service label).toList ++ w.seen := by
  obtain ⟨service, seen⟩ := next
  constructor
  · intro h
    obtain ⟨after, hafter, hnext⟩ := Option.map_eq_some_iff.mp h
    cases hnext
    exact ⟨hafter, rfl⟩
  · rintro ⟨hservice, hseen⟩
    exact Option.map_eq_some_iff.mpr ⟨service, hservice, congrArg (Watched.mk service) hseen.symm⟩

/-- A session with a center that the phone has not seen before need not be pinned. -/
theorem TrustsFirstUse.step (h : w.TrustsFirstUse platform) (hunseen : w.OpensUnseen label)
    (hstep : w.step platform label = some next) : next.TrustsFirstUse platform := by
  obtain ⟨hservice, hseen⟩ := step_eq_some.mp hstep
  rw [TrustsFirstUse, hseen, List.pairwise_append]
  refine ⟨by cases sighting w.service next.service label <;> simp, h,
    fun later hlater earlier hearlier ↦ ?_⟩
  rintro host port session rfl hcenter
  obtain ⟨draws, chain, loop, rfl, hjob, hphase, rfl, rfl⟩ :=
    dialed_of_opened hservice (Option.mem_toList.mp hlater)
  exact absurd hcenter (hunseen loop hjob hphase earlier hearlier)

/-- A second session with a center is cleartext. -/
theorem not_trustsFirstUse (h : w.service.Unpinned) (hseen : ¬ w.OpensUnseen label) :
    ∃ next, w.step platform label = some next ∧ ¬ next.TrustsFirstUse platform := by
  unfold OpensUnseen at hseen
  split at hseen
  · next draws chain =>
    push Not at hseen
    obtain ⟨loop, hjob, hphase, earlier, hearlier, hcenter⟩ := hseen
    obtain ⟨service, hservice, hopened⟩ := opened_of_dialed h hjob hphase draws chain
    refine ⟨_, Option.map_eq_some_iff.mpr ⟨service, hservice, rfl⟩, fun htrusts ↦ ?_⟩
    rw [TrustsFirstUse, hopened] at htrusts
    have hpins := List.rel_of_pairwise_cons htrusts hearlier
    exact absurd (hpins _ _ _ rfl hcenter).1 (by simp)
  · exact absurd trivial hseen

/-- The service as it starts with a host and a port, but without a stored fingerprint. -/
def firstStart (host port : String) (deviceName : Option String) (pairing : PairingMachine) :
    Watched where
  service := {
    prefs := { desktopHost := some host, desktopPort := some port, deviceName }
    pairing }

/-- Trust on first use holds in a run if and only if no session is opened with a center after a
session with it has reached Connected or a pairing with it has reached Paired. -/
theorem trusts_first_use_iff (platform : Platform) (host port : String) (deviceName : Option String)
    (pairing : PairingMachine) (labels : List ServiceLabel) :
    Run.Always (step platform) (TrustsFirstUse platform)
        (firstStart host port deviceName pairing) labels ↔
      Run.Throughout (step platform) OpensUnseen (firstStart host port deviceName pairing) labels :=
  Run.always_iff_throughout (fun w ↦ w.service.Unpinned ∧ w.TrustsFirstUse platform)
    (fun _ h ↦ h.2)
    (fun _ _ _ h hunseen hstep ↦
      ⟨h.1.step (step_eq_some.mp hstep).1, h.2.step hunseen hstep⟩)
    (fun _ _ h hseen ↦ not_trustsFirstUse h.1 hseen)
    ⟨⟨rfl, by simp [firstStart], by simp [firstStart], ⟨by simp [firstStart], by simp [firstStart]⟩⟩,
      List.Pairwise.nil⟩

/-- The service starts the client, a session opens and ends, and the next one opens. -/
def sampleReconnect : List ServiceLabel :=
  [.emitted .host, .emitted .port, .emitted .fingerprint,
    .loop sampleDraws (.dialed (.upgraded [])), .collectStatus, .connectedBlock sampleDraws,
    .loop sampleDraws (.sessionEnded none), .loop sampleDraws .delayElapsed,
    .loop sampleDraws (.dialed (.upgraded []))]

/-- The second session of a first-use run is cleartext. -/
theorem reconnect_is_not_pinned : ¬ ∀ (platform : Platform) (host port : String)
    (deviceName : Option String) (pairing : PairingMachine) (labels : List ServiceLabel),
    Run.Always (step platform) (TrustsFirstUse platform)
      (firstStart host port deviceName pairing) labels := by
  intro h
  have hend := (h samplePlatform "10.0.0.2" "8443" none {} sampleReconnect).last rfl
  have hpins := List.rel_of_pairwise_cons hend (List.mem_singleton.mpr rfl)
  exact absurd (hpins _ _ _ rfl rfl).1 (by decide)

end Watched

end PhoneBridge.Android
