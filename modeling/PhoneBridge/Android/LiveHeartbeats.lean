import PhoneBridge.Android.HeartbeatController
import PhoneBridge.Library.Run

/-!
# Which misses the phone counts

The controller looks at the client's status twice only: before its first round, and after a
reconnect that a timeout has forced. A round goes on while the client is away, and a full queue
forces a reconnect without a wait. The status is whatever the client publishes: the loop that a
forced reconnect cancels changes it later, or not at all.
-/

namespace PhoneBridge.Android

open Library

/-- What has happened: the client has published a status, or the controller has begun a round, met
an echo, counted a miss (and whether the client had been Connected throughout the round, and whether
the miss forced a reconnect), or been started again. -/
inductive HeartbeatMark
  | published (status : BridgeStatus)
  | began
  | echoed
  | missed (live forced : Bool)
  | restarted
  deriving DecidableEq, Repr

/-- The controller, the status and the queue of the client, and the past, newest first. `live` says
whether the client has been Connected since the round began. -/
structure HeartbeatWatch where
  controller : HeartbeatController := {}
  status : BridgeStatus := .disconnected
  outgoing : List Envelope := []
  live : Bool := false
  marks : List HeartbeatMark := []

/-- What happens to the controller. The client publishes a status and its queue changes at any time;
`stop` and `start` make a `restart`. -/
inductive WatchLabel
  | status (status : BridgeStatus)
  | queue (outgoing : List Envelope)
  | connected
  | sendOne (draws : Draws)
  | collect
  | echo (id : String)
  | timeout
  | rested
  | restart

namespace HeartbeatWatch

/-- The client, as far as the controller can see it. -/
def client (s : HeartbeatWatch) : BridgeClient := { status := s.status, outgoing := s.outgoing }

/-- The next miss is the third one in a row. -/
def forces (s : HeartbeatWatch) : Bool := decide (missedBeforeReconnect ≤ s.controller.missed + 1)

/-- The controller has counted a miss. -/
def counted (s : HeartbeatWatch) (controller : HeartbeatController) : HeartbeatWatch :=
  { s with
    controller
    marks := .missed s.live s.forces :: s.marks }

def step (store : IdentityStore) (s : HeartbeatWatch) : WatchLabel → Option HeartbeatWatch
  | .status status => some { s with
      status
      live := s.live && status.isConnected
      marks := .published status :: s.marks }
  | .queue outgoing => some { s with outgoing }
  | .connected =>
    if s.status.isConnected then
      s.controller.connected.map fun controller ↦ { s with controller }
    else none
  | .sendOne draws =>
    if s.controller.phase = .sending then
      let (controller, client) := s.controller.sendOne store draws s.client
      let s := { s with
        live := s.status.isConnected, marks := .began :: s.marks }
      some (if s.outgoing.length < BridgeClient.capacity then
        { s with controller, outgoing := client.outgoing }
      else s.counted controller)
    else none
  | .collect => s.controller.collect.map fun controller ↦ { s with controller }
  | .echo id =>
    some (if s.controller.phase = .collecting id then
      { s with controller := s.controller.echo id, marks := .echoed :: s.marks }
    else s)
  | .timeout => (s.controller.timeout s.client).map fun result ↦ s.counted result.1
  | .rested => s.controller.rested.map fun controller ↦ { s with controller }
  | .restart => some { s with controller := {}, marks := .restarted :: s.marks }

/-- The misses in a row: since the last echo, forced reconnect or start. -/
def inARow : List HeartbeatMark → Nat
  | .published _ :: past | .began :: past => inARow past
  | .missed _ false :: past => inARow past + 1
  | .missed _ true :: _ | .echoed :: _ | .restarted :: _ | [] => 0

/-- What the client has published since the last forced reconnect, if there has been one. -/
def publishedSince : List HeartbeatMark → Option (List BridgeStatus)
  | .published status :: past => (publishedSince past).map (status :: ·)
  | .missed _ true :: _ => some []
  | .missed _ false :: past | .began :: past | .echoed :: past | .restarted :: past =>
    publishedSince past
  | [] => none

/-- The client has published Connected after each forced reconnect. -/
def ConnectedSince (marks : List HeartbeatMark) : Prop :=
  ∀ between live past, marks = between ++ .missed live true :: past →
    ∃ status, .published status ∈ between ∧ status.isConnected = true

/-- Only misses of live rounds are counted, the third one in a row forces a reconnect, the counter
is their number and below three, and between a forced reconnect and a later round the client has
connected. -/
structure CountsLive (s : HeartbeatWatch) : Prop where
  live : ∀ live forced, .missed live forced ∈ s.marks → live = true
  third : ∀ front live forced past, s.marks = front ++ .missed live forced :: past →
    (forced = true ↔ inARow past = 2)
  counter : s.controller.missed = inARow s.marks
  below : s.controller.missed < 3
  reconnected : ∀ front past, s.marks = front ++ .began :: past → ConnectedSince past

/-- A round that times out has been live, a full queue is met on a live client, and a round begins
only when a Connected is among what the client has published since the last forced reconnect. -/
def StaysLive (s : HeartbeatWatch) : WatchLabel → Prop
  | .timeout => s.controller.round.isSome = true → s.live = true
  | .sendOne _ => s.controller.phase = .sending →
      (∀ statuses ∈ publishedSince s.marks, ∃ status ∈ statuses, status.isConnected = true) ∧
      (BridgeClient.capacity ≤ s.outgoing.length → s.status.isConnected = true)
  | _ => True

/-! ## The counter -/

section Steps

variable {store : IdentityStore} {s next : HeartbeatWatch} {label : WatchLabel}
  {controller : HeartbeatController}

/-- A mark that forces no reconnect and is no Connected changes nothing. -/
theorem connectedSince_cons {mark : HeartbeatMark} {past : List HeartbeatMark}
    (hforced : ∀ live, mark ≠ .missed live true)
    (hpublished : ∀ status, mark = .published status → status.isConnected = false) :
    ConnectedSince (mark :: past) ↔ ConnectedSince past := by
  constructor
  · rintro h between live rest rfl
    obtain ⟨status, hmem, hconnected⟩ := h (mark :: between) live rest rfl
    rcases List.mem_cons.mp hmem with hnew | hold
    · rw [hpublished status hnew.symm] at hconnected
      cases hconnected
    · exact ⟨status, hold, hconnected⟩
  · intro h between live rest hsplit
    rcases List.cons_eq_append_iff.mp hsplit with ⟨-, hnew⟩ | ⟨between, rfl, hold⟩
    · exact absurd (List.cons.inj hnew).1.symm (hforced live)
    · obtain ⟨status, hmem, hconnected⟩ := h between live rest hold
      exact ⟨status, List.mem_cons_of_mem mark hmem, hconnected⟩

/-- The last forced reconnect is the one that counts. -/
theorem connectedSince_iff {marks : List HeartbeatMark} :
    (∀ statuses ∈ publishedSince marks, ∃ status ∈ statuses, status.isConnected = true) ↔
      ConnectedSince marks := by
  induction marks with
  | nil => exact iff_of_true (fun _ hnone ↦ by cases hnone) fun _ _ _ hsplit ↦ by simp at hsplit
  | cons mark past ih =>
    cases mark with
    | published status =>
      cases hconnected : status.isConnected with
      | true =>
        refine iff_of_true ?_ ?_
        · rintro statuses hstatuses
          obtain ⟨rest, -, rfl⟩ := Option.map_eq_some_iff.mp hstatuses
          exact ⟨status, List.mem_cons_self, hconnected⟩
        · intro between live rest hsplit
          rcases List.cons_eq_append_iff.mp hsplit with ⟨-, hnew⟩ | ⟨between, rfl, -⟩
          · cases hnew
          · exact ⟨status, List.mem_cons_self, hconnected⟩
      | false =>
        rw [connectedSince_cons (by simp) (by simp [hconnected]), ← ih]
        simp [publishedSince, hconnected]
    | missed live forced =>
      cases forced with
      | true =>
        refine iff_of_false ?_ ?_
        · intro h
          obtain ⟨status, hmem, -⟩ := h [] rfl
          cases hmem
        · intro h
          obtain ⟨status, hmem, -⟩ := h [] live past rfl
          cases hmem
      | false => exact ih.trans (connectedSince_cons (by simp) (by simp)).symm
    | began | echoed | restarted => exact ih.trans (connectedSince_cons (by simp) (by simp)).symm

theorem missed_miss (h : HeartbeatController) (client : BridgeClient)
    (rest wait : HeartbeatPhase) :
    (h.miss client rest wait).1.missed =
      if missedBeforeReconnect ≤ h.missed + 1 then 0 else h.missed + 1 := by
  unfold HeartbeatController.miss
  split <;> rfl

/-- A step that counts nothing: the past is the same but for marks that leave the counter alone. -/
theorem CountsLive.of_same (h : s.CountsLive) (hmarks : next.marks = s.marks)
    (hmissed : next.controller.missed = s.controller.missed) : next.CountsLive where
  live := by rw [hmarks]; exact h.live
  third := by rw [hmarks]; exact h.third
  counter := by rw [hmarks, hmissed]; exact h.counter
  below := by rw [hmissed]; exact h.below
  reconnected := by rw [hmarks]; exact h.reconnected

/-- A new mark that is no miss. -/
theorem CountsLive.of_mark (h : s.CountsLive) {mark : HeartbeatMark}
    (hmarks : next.marks = mark :: s.marks) (hmiss : ∀ live forced, mark ≠ .missed live forced)
    (hbegan : mark = .began → ConnectedSince s.marks)
    (hcounter : next.controller.missed = inARow (mark :: s.marks))
    (hbelow : next.controller.missed < 3) : next.CountsLive where
  live live forced hmem := by
    rw [hmarks] at hmem
    rcases List.mem_cons.mp hmem with hnew | hold
    · exact absurd hnew.symm (hmiss live forced)
    · exact h.live live forced hold
  third front live forced past hsplit := by
    rw [hmarks] at hsplit
    rcases List.cons_eq_append_iff.mp hsplit with ⟨-, hnew⟩ | ⟨front, -, hold⟩
    · cases hnew
      exact absurd rfl (hmiss live forced)
    · exact h.third front live forced past hold
  counter := by rw [hmarks]; exact hcounter
  below := hbelow
  reconnected front past hsplit := by
    rw [hmarks] at hsplit
    rcases List.cons_eq_append_iff.mp hsplit with ⟨-, hnew⟩ | ⟨front, -, hold⟩
    · cases hnew
      exact hbegan rfl
    · exact h.reconnected front past hold

/-- The third miss in a row forces a reconnect. -/
theorem CountsLive.forces_iff (h : s.CountsLive) : s.forces = true ↔ inARow s.marks = 2 := by
  have hbelow := h.below
  rw [forces, decide_eq_true_eq, missedBeforeReconnect, ← h.counter]
  omega

/-- A miss of a live round. -/
theorem CountsLive.counted (h : s.CountsLive) (hlive : s.live = true)
    (hmissed : controller.missed =
      if missedBeforeReconnect ≤ s.controller.missed + 1 then 0 else s.controller.missed + 1) :
    (s.counted controller).CountsLive where
  live live forced hmem := by
    rcases List.mem_cons.mp hmem with hnew | hold
    · cases hnew
      exact hlive
    · exact h.live live forced hold
  third front live forced past hsplit := by
    rcases List.cons_eq_append_iff.mp hsplit with ⟨-, hnew⟩ | ⟨front, -, hold⟩
    · cases hnew
      exact h.forces_iff
    · exact h.third front live forced past hold
  counter := by
    change controller.missed = inARow (.missed s.live s.forces :: s.marks)
    rw [hmissed, h.counter]
    cases hforces : s.forces with
    | false =>
      rw [forces, decide_eq_false_iff_not, h.counter] at hforces
      exact if_neg hforces
    | true =>
      rw [forces, decide_eq_true_eq, h.counter] at hforces
      exact if_pos hforces
  below := by
    change controller.missed < 3
    have hbelow := h.below
    rw [hmissed, missedBeforeReconnect]
    split <;> omega
  reconnected front past hsplit := by
    rcases List.cons_eq_append_iff.mp hsplit with ⟨-, hnew⟩ | ⟨front, -, hold⟩
    · cases hnew
    · exact h.reconnected front past hold

/-! ## The steps -/

/-- A round begins, with a queued heartbeat or with a miss of a live client. -/
theorem CountsLive.sendOne (h : s.CountsLive) {draws : Draws}
    (hstays : s.StaysLive (.sendOne draws))
    (hstep : s.step store (.sendOne draws) = some next) : next.CountsLive := by
  simp only [step] at hstep
  split at hstep
  · next hphase =>
    cases hstep
    obtain ⟨hreconnected, hfull⟩ := hstays hphase
    have hbegan : ({ s with
        live := s.status.isConnected, marks := .began :: s.marks } :
        HeartbeatWatch).CountsLive :=
      h.of_mark rfl (by simp) (fun _ ↦ connectedSince_iff.mp hreconnected) h.counter h.below
    split
    · next hroom =>
      have hsent : (s.controller.sendOne store draws s.client).1.missed = s.controller.missed := by
        simp [HeartbeatController.sendOne, BridgeClient.send, client, hroom]
      exact hbegan.of_same rfl hsent
    · next hroom =>
      have hmissed : (s.controller.sendOne store draws s.client).1 =
          (s.controller.miss s.client .resting .resting).1 := by
        simp [HeartbeatController.sendOne, BridgeClient.send, client, hroom]
      apply hbegan.counted (hfull (Nat.le_of_not_lt hroom))
      rw [hmissed]
      exact missed_miss s.controller s.client .resting .resting
  · cases hstep

theorem CountsLive.step (h : s.CountsLive) (hstays : s.StaysLive label)
    (hstep : s.step store label = some next) : next.CountsLive := by
  cases label with
  | status status =>
    cases hstep
    exact h.of_mark rfl (by simp) (by simp) h.counter h.below
  | queue outgoing => cases hstep; exact h.of_same rfl rfl
  | connected =>
    simp only [HeartbeatWatch.step] at hstep
    split at hstep
    · obtain ⟨controller, hconnected, rfl⟩ := Option.map_eq_some_iff.mp hstep
      unfold HeartbeatController.connected at hconnected
      split at hconnected
      · cases hconnected; exact h.of_same rfl rfl
      · cases hconnected; exact h.of_same rfl rfl
      · cases hconnected
    · cases hstep
  | sendOne draws => exact h.sendOne hstays hstep
  | collect =>
    obtain ⟨controller, hcollect, rfl⟩ := Option.map_eq_some_iff.mp hstep
    unfold HeartbeatController.collect at hcollect
    split at hcollect
    · cases hcollect; exact h.of_same rfl rfl
    · cases hcollect
  | echo id =>
    simp only [HeartbeatWatch.step] at hstep
    cases hstep
    split
    · next hphase =>
      have hreset : (s.controller.echo id).missed = 0 := by
        simp [HeartbeatController.echo, hphase]
      exact h.of_mark rfl (by simp) (by simp) hreset (by rw [hreset]; decide)
    · exact h
  | timeout =>
    obtain ⟨result, htimeout, rfl⟩ := Option.map_eq_some_iff.mp hstep
    obtain ⟨id, hround, rfl⟩ := Option.map_eq_some_iff.mp htimeout
    apply h.counted (hstays (Option.isSome_iff_exists.mpr ⟨id, hround⟩))
    exact missed_miss s.controller s.client .resting .reconnecting
  | rested =>
    obtain ⟨controller, hrested, rfl⟩ := Option.map_eq_some_iff.mp hstep
    unfold HeartbeatController.rested at hrested
    split at hrested
    · cases hrested; exact h.of_same rfl rfl
    · cases hrested
  | restart =>
    cases hstep
    exact h.of_mark rfl (by simp) (by simp) rfl (Nat.succ_pos 2)

end Steps

end HeartbeatWatch

end PhoneBridge.Android
