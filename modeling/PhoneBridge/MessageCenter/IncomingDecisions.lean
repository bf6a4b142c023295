import PhoneBridge.MessageCenter.IncomingCalls

/-!
# One decision for each parked request

Taking the parked request is one operation on its map, so of all the calls that decide on a request
one goes on and the others find nothing. The call that goes on has the decision: the request does not
come back when the confirmation cannot be sent.
-/

namespace PhoneBridge.MessageCenter

open Library Proto Net Storage

/-! ## Who confirms -/

/-- The `device.pair.confirm` envelopes that are on a channel. -/
def confirmsOn (outbox : Outbox) : Nat := outbox.queue.countP (·.messageType = .devicePairConfirm)

/-- A channel that is replaced by one with no more of them gains none. -/
theorem confirmsOn_setOutbox {registry : DeviceRegistry} {tx : ConnId} {outbox : Outbox}
    (h : confirmsOn outbox ≤ confirmsOn (registry.outboxes tx)) (conn : ConnId) :
    confirmsOn ((registry.setOutbox tx outbox).outboxes conn) ≤
      confirmsOn (registry.outboxes conn) := by
  simp only [DeviceRegistry.setOutbox]
  split
  · next heq =>
    subst heq
    exact h
  · exact le_refl _

/-- An envelope of another type adds none. -/
theorem confirmsOn_send {registry : DeviceRegistry} {tx : ConnId} {env : Envelope}
    (h : env.messageType ≠ .devicePairConfirm) (conn : ConnId) :
    confirmsOn ((registry.send tx env).outboxes conn) = confirmsOn (registry.outboxes conn) := by
  simp only [DeviceRegistry.send, DeviceRegistry.setOutbox]
  split
  · next heq =>
    subst heq
    unfold Outbox.send
    split
    · simp [confirmsOn, List.countP_append, h]
    · rfl
  · rfl

/-- The dispatcher answers nothing with a confirmation. -/
theorem reply_ne_confirm {ctx : WsContext} {draws : Draws} {env answer : Envelope}
    {session : Option DeviceSession} (h : DeviceSession.reply ctx draws env session = some answer) :
    answer.messageType ≠ .devicePairConfirm := by
  unfold DeviceSession.reply at h
  split at h
  · cases h
    simp [Draws.envelope, Envelope.new]
  · split at h
    · cases h
    · cases h
      simp [Initiator.buildRejectEnvelope, Draws.envelope, Envelope.new]
  · split at h
    · cases h
      simp [Initiator.buildCompleteEnvelope, Draws.envelope, Envelope.new]
    · cases h
  · cases h

/-- No handler but the two that decide puts a confirmation on a channel. -/
theorem AppState.confirmsOn_step {s t : AppState} {ctx : WsContext}
    {dbMessage : DbError → String} {label : ServerLabel} (hother : label.decides = false)
    (hstep : s.step ctx dbMessage label = some t) (conn : ConnId) :
    confirmsOn (t.registry.outboxes conn) ≤ confirmsOn (s.registry.outboxes conn) := by
  cases label with
  | connection label =>
    obtain ⟨hub, hhub, rfl⟩ := Option.map_eq_some_iff.mp hstep
    simp only [registry]
    cases Hub.channelEffect_of_step hhub with
    | unchanged houtboxes => rw [houtboxes]
    | opened opened outbox houtbox houtboxes =>
      have hnone : confirmsOn outbox = 0 := by
        apply List.countP_eq_zero.mpr
        intro env henv
        obtain ⟨stamp, rfl⟩ := houtbox env henv
        simp [buildDesktopHello, Envelope.new]
      rw [houtboxes]
      apply confirmsOn_setOutbox
      rw [hnone]
      exact Nat.zero_le _
    | replied served draws env answer hanswer houtboxes =>
      rw [dispatch_eq] at hanswer
      rw [houtboxes, confirmsOn_send (reply_ne_confirm hanswer)]
  | pairStart draws other =>
    cases hstep
    simp only [registry, withCenter]
    obtain hsame | ⟨initiator, env, hbuild, hsend⟩ :=
      registry_pairStart ctx draws other s.hub.center
    · rw [hsame]
    · have hrequest : env.messageType ≠ .devicePairConfirm := by
        unfold Initiator.buildRequestEnvelope at hbuild
        split at hbuild
        · cases hbuild
        · cases hbuild
          simp [Draws.envelope, Envelope.new]
      obtain ⟨tx, -, -, -, hsent⟩ := DeviceRegistry.trySend_eq_ok.mp hsend
      rw [hsent]
      exact (confirmsOn_send hrequest conn).le
  | pairAccept draws dummy other code =>
    cases hstep
    rw [pairAccept_eq]
    exact le_refl _
  | pairReject draws dummy other reason =>
    cases hstep
    rw [pairReject_eq]
    exact le_refl _
  | incomingAccept => cases hother
  | incomingReject => cases hother
  | removeDevice now other =>
    cases hstep
    simp only [AppState.removeDevice, AppState.removed]
    split <;> exact le_refl _

namespace Decisions

/-! ## One decision for each request -/

/-- Every parked request is taken by one call at most, no more confirmations are queued for a device
than requests were parked for it, none is for a request that has another, and the calls that took
nothing are those that answered not-found. -/
structure OneDecision (s : Decisions) : Prop where
  takenOnce : (s.tickets.taken.map Prod.fst).Nodup
  atMostParked : ∀ deviceId,
    (s.confirms.filter (·.deviceId = deviceId)).length ≤ s.tickets.arrivals deviceId
  notBoth : ∀ c ∈ s.confirms, ∀ c' ∈ s.confirms,
    c.deviceId = c'.deviceId → c.request = c'.request → c = c'
  losers : ∀ id call response, s.calls.get id = some call → call.stage = .answered response →
    (response.status = 404 ↔ ∀ request, (request, id) ∉ s.tickets.taken)

/-- A step in which a call answers not-found changes nothing else. -/
def LosersChangeNothing (ctx : WsContext) (dbMessage : DbError → String) (s : Decisions)
    (label : DecisionLabel) : Prop :=
  ∀ id draws, label = .advance id draws → ∀ t, s.step ctx dbMessage label = some t →
    ∀ call response, t.calls.get id = some call → call.stage = .answered response →
      response.status = 404 →
        t.app = s.app ∧ t.tickets = s.tickets ∧ t.confirms = s.confirms ∧
          ∀ other, other ≠ id → t.calls.get other = s.calls.get other

theorem mem_takenBy {s : Decisions} {id : CallId} {request : Uuid × Nat} :
    request ∈ s.takenBy id ↔ (request, id) ∈ s.tickets.taken := by
  simp [takenBy]

/-- The answers of calls that have taken a request. -/
theorem status_of_taken (decision : Decision) (e : DownstreamError) :
    decision.unconnected.status ≠ 404 ∧ (decision.failed e).status ≠ 404 ∧
      decision.sent.status = 200 := by
  cases decision <;> simp [Decision.unconnected, Decision.failed, Decision.sent, sendFailed]

/-- A request has one confirmation at most. -/
theorem Accounted.confirm_unique {s : Decisions} (h : s.Accounted) {c c' : Confirm}
    (hc : c ∈ s.confirms) (hc' : c' ∈ s.confirms) (hdevice : c.deviceId = c'.deviceId)
    (hrequest : c.request = c'.request) : c = c' :=
  List.inj_on_of_nodup_map h.once hc hc' (by rw [hdevice, hrequest])

theorem Accounted.oneDecision {s : Decisions} (h : s.Accounted) : s.OneDecision := by
  constructor
  · exact s.tickets.once
  · intro deviceId
    have hmine : ∀ c ∈ s.confirms.filter (·.deviceId = deviceId),
        c ∈ s.confirms ∧ c.deviceId = deviceId := by
      intro c hc
      simpa using hc
    rw [← List.length_map Confirm.request]
    apply s.tickets.length_le_arrivals
    · apply List.Nodup.map_on
      · intro c hc c' hc' hrequest
        obtain ⟨hmem, hdevice⟩ := hmine c hc
        obtain ⟨hmem', hdevice'⟩ := hmine c' hc'
        exact h.confirm_unique hmem hmem' (hdevice.trans hdevice'.symm) hrequest
      · exact h.once.of_map.filter _
    · intro number hnumber
      obtain ⟨c, hc, rfl⟩ := List.mem_map.mp hnumber
      obtain ⟨hmem, hdevice⟩ := hmine c hc
      rw [← hdevice]
      exact List.mem_map_of_mem (h.confirms c hmem)
  · intro c hc c' hc'
    exact h.confirm_unique hc hc'
  · intro id call response hcall hstage
    have hsettled := h.at_stage hcall
    obtain ⟨hunconnected, hfailed, hsent⟩ :=
      status_of_taken call.decision (.notConnected call.deviceId)
    simp only [Matches, hstage] at hsettled
    simp only [← mem_takenBy]
    generalize s.takenBy id = taken at hsettled
    generalize s.confirmsOf id = confirms at hsettled
    cases hsettled with
    | lost => simp [noPending]
    | unconnected request => simp [hunconnected]
    | failed request e => simp [(status_of_taken call.decision e).2.1]
    | sent request => simp [hsent]

/-- A call that has just answered not-found has found nothing. -/
theorem losers_change_nothing (ctx : WsContext) (dbMessage : DbError → String) (s : Decisions)
    (label : DecisionLabel) : s.LosersChangeNothing ctx dbMessage label := by
  rintro id draws rfl t hstep after response hafter hanswered hlost
  obtain ⟨call, hcall, hnext⟩ := Option.bind_eq_some_iff.mp hstep
  obtain ⟨hunconnected, hfailed, hsent⟩ :=
    status_of_taken call.decision (.notConnected call.deviceId)
  have hput : ∀ {s' : Decisions} {stage : CallStage}, s'.put id call stage = t →
      stage = .answered response := by
    rintro s' stage rfl
    simp only [Decisions.put, KeyMap.get_insert_self, Option.some.injEq] at hafter
    rw [← hafter] at hanswered
    exact hanswered
  split at hnext
  · split at hnext
    · cases hnext
      exact ⟨rfl, rfl, rfl, fun other hother ↦ KeyMap.get_insert_of_ne _ _ hother⟩
    · cases hput (Option.some.inj hnext)
  · split at hnext
    · cases hput (Option.some.inj hnext)
    · cases hput (Option.some.inj hnext)
      exact absurd hlost hunconnected
  · split at hnext
    · cases hput (Option.some.inj hnext)
      exact absurd hlost hfailed
    · cases hput (Option.some.inj hnext)
  · dsimp only at hnext
    split at hnext
    · cases hput (Option.some.inj hnext)
      exact absurd hlost (status_of_taken call.decision (.queueFull call.deviceId)).2.1
    · cases hput (Option.some.inj hnext)
      simp [hsent] at hlost
  · cases hnext

/-- A step puts no `device.pair.confirm` on a channel, or it puts one there and records it. -/
def RecordsConfirms (ctx : WsContext) (dbMessage : DbError → String) (s : Decisions)
    (label : DecisionLabel) : Prop :=
  ∀ t, s.step ctx dbMessage label = some t →
    (t.confirms = s.confirms ∧ ∀ conn,
      confirmsOn (t.app.registry.outboxes conn) ≤ confirmsOn (s.app.registry.outboxes conn)) ∨
    ∃ c tx, ∃ draws : Draws, t.confirms = c :: s.confirms ∧
      t.app.registry = s.app.registry.send tx
        (draws.envelope .devicePairConfirm ctx.ourDeviceId
          (PairConfirm.toValue { accepted := c.accepted }))

theorem records_confirms (ctx : WsContext) (dbMessage : DbError → String) (s : Decisions)
    (label : DecisionLabel) : s.RecordsConfirms ctx dbMessage label := by
  intro t hstep
  cases label with
  | server label =>
    simp only [step] at hstep
    split at hstep
    · cases hstep
    next hother =>
      obtain ⟨app, happ, rfl⟩ := Option.map_eq_some_iff.mp hstep
      exact .inl ⟨rfl, AppState.confirmsOn_step (by simpa using hother) happ⟩
  | drain conn =>
    cases hstep
    exact .inl ⟨rfl, confirmsOn_setOutbox (List.tail_sublist _).countP_le⟩
  | hangUp conn =>
    cases hstep
    exact .inl ⟨rfl, confirmsOn_setOutbox (le_refl _)⟩
  | call id decision deviceId =>
    simp only [step] at hstep
    split at hstep
    · cases hstep
    · cases hstep
      exact .inl ⟨rfl, fun _ ↦ le_refl _⟩
  | advance id draws =>
    obtain ⟨call, hcall, hnext⟩ := Option.bind_eq_some_iff.mp hstep
    split at hnext
    · split at hnext <;> cases hnext <;> exact .inl ⟨rfl, fun _ ↦ le_refl _⟩
    · split at hnext <;> cases hnext <;> exact .inl ⟨rfl, fun _ ↦ le_refl _⟩
    · split at hnext <;> cases hnext <;> exact .inl ⟨rfl, fun _ ↦ le_refl _⟩
    · next request tx hstage =>
      dsimp only at hnext
      split at hnext
      · cases hnext
        exact .inl ⟨rfl, fun _ ↦ le_refl _⟩
      · next outbox hsend =>
        cases hnext
        refine .inr ⟨_, tx, draws, rfl, ?_⟩
        unfold Outbox.trySend at hsend
        split at hsend
        · next hroom =>
          cases hsend
          simp [Decisions.put, Decisions.confirm, AppState.withOutbox, AppState.withCenter,
            AppState.registry, DeviceRegistry.send, Outbox.send]
        · cases hsend
    · cases hnext

/-- A parked request is decided at most once, in every run of any number of calls among the other
handlers of the server. -/
theorem incoming_request_decided_once (ctx : WsContext) (dbMessage : DbError → String)
    (app : AppState) (labels : List DecisionLabel) :
    Run.Always (step ctx dbMessage) OneDecision (start app) labels ∧
      Run.Throughout (step ctx dbMessage) (fun s label ↦
        s.LosersChangeNothing ctx dbMessage label ∧ s.RecordsConfirms ctx dbMessage label)
        (start app) labels := by
  constructor
  · apply Run.always_of_throughout Accounted (fun s h ↦ h.oneDecision)
    · exact fun s label t h _ hstep ↦ h.step hstep
    · exact Run.throughout_true _ _
    · exact accounted_start app
  · apply Run.throughout_of_at_step
    intro front label back s _ _
    exact ⟨s.losers_change_nothing ctx dbMessage label, s.records_confirms ctx dbMessage label⟩

/-! ## The call that accepts -/

/-- A request that a call has taken is not the one that is pending now. -/
def GoneFor (s : Decisions) (deviceId : Uuid) (request : Nat) : Prop :=
  (s.app.pendingIncoming.get deviceId).isSome = true → s.tickets.arrivals deviceId ≠ request

/-- What an answered `incoming_accept` has done: with success it has taken one request and queued one
accepting confirmation; with an error it has queued none, and the request it has taken, if there was
one, is not pending any more. -/
def AcceptIsFinal (s : Decisions) : Prop :=
  ∀ id call response, s.calls.get id = some call → call.decision = .accept →
    call.stage = .answered response →
    (response.status = 200 ∧ ∃ request, s.takenBy id = [(call.deviceId, request)] ∧
      s.GoneFor call.deviceId request ∧
      s.confirmsOf id = [{ deviceId := call.deviceId, request, call := id, accepted := true }]) ∨
    (response.status = 503 ∧ ∃ request, s.takenBy id = [(call.deviceId, request)] ∧
      s.GoneFor call.deviceId request ∧ s.confirmsOf id = []) ∨
    (response.status = 404 ∧ s.takenBy id = [] ∧ s.confirmsOf id = [])

theorem Accounted.goneFor {s : Decisions} (h : s.Accounted) {id : CallId} {deviceId : Uuid}
    {request : Nat} (htaken : s.takenBy id = [(deviceId, request)]) :
    s.GoneFor deviceId request := by
  have hmem : ((deviceId, request), id) ∈ s.tickets.taken := by
    apply mem_takenBy.mp
    rw [htaken]
    exact List.mem_singleton_self _
  intro hpending heq
  rw [← h.waiting] at hpending
  exact s.tickets.not_waiting_of_taken hmem ⟨hpending, heq⟩

theorem Accounted.acceptIsFinal {s : Decisions} (h : s.Accounted) : s.AcceptIsFinal := by
  intro id call response hcall haccept hstage
  have hsettled := h.at_stage hcall
  simp only [Matches, hstage, haccept] at hsettled
  have hgone : ∀ request, s.takenBy id = [(call.deviceId, request)] →
      s.GoneFor call.deviceId request := fun _ ↦ h.goneFor
  generalize s.takenBy id = taken at hsettled hgone
  generalize s.confirmsOf id = confirms at hsettled
  cases hsettled with
  | lost => exact .inr (.inr ⟨rfl, rfl, rfl⟩)
  | unconnected request => exact .inr (.inl ⟨rfl, request, rfl, hgone request rfl, rfl⟩)
  | failed request e => exact .inr (.inl ⟨rfl, request, rfl, hgone request rfl, rfl⟩)
  | sent request => exact .inl ⟨rfl, request, rfl, hgone request rfl, rfl⟩

/-- `incoming_accept` has the decision once it has taken the request, in every run of any number of
calls among the other handlers of the server. -/
theorem incoming_accept_is_final (ctx : WsContext) (dbMessage : DbError → String)
    (app : AppState) (labels : List DecisionLabel) :
    Run.Always (step ctx dbMessage) AcceptIsFinal (start app) labels ∧
      Run.Throughout (step ctx dbMessage) (fun s label ↦ s.RecordsConfirms ctx dbMessage label)
        (start app) labels := by
  constructor
  · apply Run.always_of_throughout Accounted (fun s h ↦ h.acceptIsFinal)
    · exact fun s label t h _ hstep ↦ h.step hstep
    · exact Run.throughout_true _ _
    · exact accounted_start app
  · apply Run.throughout_of_at_step
    exact fun front label back s _ _ ↦ s.records_confirms ctx dbMessage label

end Decisions

/-- A request of the phone 1 is parked, and the phone is gone. -/
def sampleParked : Center Unit where
  sessions := { Sessions.empty with
    pendingIncoming := KeyMap.empty.insert ⟨1⟩ {
      deviceId := ⟨1⟩, name := "device-1", receivedAt := 1000, peerEphemeralPubB64 := none } }
  registry := { inner := .empty, outboxes := fun _ ↦ .new }
  store := ()

/-- After an error the request is not pending any more. -/
theorem failed_accept_drops_the_request : ¬ ∀ (ctx : WsContext) (draws : Draws) (deviceId : Uuid)
    (center : Center Unit), (incomingAccept ctx draws deviceId center).1.status ≠ 200 →
      (incomingAccept ctx draws deviceId center).2.sessions.pendingIncoming.get deviceId =
        center.sessions.pendingIncoming.get deviceId := by
  intro h
  have hkept := h sampleContext sampleDraws ⟨1⟩ sampleParked (by decide)
  simp [incomingAccept, sampleParked, removePending, DeviceRegistry.isConnected] at hkept

end PhoneBridge.MessageCenter
