import PhoneBridge.Library.Run
import PhoneBridge.Library.Tickets
import PhoneBridge.MessageCenter.AppState

/-!
# Decisions on parked requests

The two REST calls that decide on a parked request, split into their operations on the shared maps
and channels. Between two of them anything else may happen: more requests arrive, phones come and
go, and other calls decide.
-/

namespace PhoneBridge.MessageCenter

open Library Proto Net Storage

abbrev CallId := Nat

/-- What the user decided. -/
inductive Decision
  | accept
  | reject
  deriving DecidableEq, Repr

namespace Decision

/-- The field `accepted` of the `device.pair.confirm`. -/
def accepted : Decision → Bool
  | .accept => true
  | .reject => false

/-- The answer after the confirmation is on its way. -/
def sent : Decision → Response
  | .accept => { status := 200, text := "pair.confirm(true) sent" }
  | .reject => { status := 200, text := "pair.confirm(false) sent" }

/-- The answer when the phone is gone; a rejection needs no phone. -/
def unconnected : Decision → Response
  | .accept => { status := 503, text := "device not connected" }
  | .reject => Decision.reject.sent

/-- The answer after a failed send; for a rejection it is only logged. -/
def failed (e : DownstreamError) : Decision → Response
  | .accept => sendFailed e
  | .reject => Decision.reject.sent

end Decision

/-- The answer to a call that finds no parked request. -/
def noPending : Response := { status := 404, text := "no pending pair request for this device" }

/-- Where a call stands between two operations. No step reads the number of the request that the
call has taken. -/
inductive CallStage
  | called
  /-- the parked request is removed -/
  | taken (request : Nat)
  /-- the device was among the connected ids -/
  | connected (request : Nat)
  /-- `try_send` has cloned the sender -/
  | sending (request : Nat) (tx : ConnId)
  | answered (response : Response)

structure DecisionCall where
  decision : Decision
  deviceId : Uuid
  stage : CallStage

/-- A `device.pair.confirm` that a call has put on a channel. -/
structure Confirm where
  deviceId : Uuid
  request : Nat
  call : CallId
  accepted : Bool
  deriving DecidableEq, Repr

/-- The server with the calls that decide on parked requests. The tickets number the requests of each
device and record who took them; the confirmations are recorded newest first. No step reads them. -/
structure Decisions where
  app : AppState
  calls : KeyMap CallId DecisionCall
  tickets : Tickets Uuid CallId
  confirms : List Confirm

inductive DecisionLabel
  /-- a step of another handler -/
  | server (label : ServerLabel)
  /-- a writer task takes the next envelope from its channel -/
  | drain (conn : ConnId)
  /-- a writer task stops -/
  | hangUp (conn : ConnId)
  | call (id : CallId) (decision : Decision) (deviceId : Uuid)
  | advance (id : CallId) (draws : Draws)

def AppState.pendingIncoming (s : AppState) : PendingIncomingMap :=
  s.hub.center.sessions.pendingIncoming

def AppState.registry (s : AppState) : DeviceRegistry := s.hub.center.registry

def AppState.withOutbox (s : AppState) (conn : ConnId) (outbox : Outbox) : AppState :=
  s.withCenter { s.hub.center with registry := s.registry.setOutbox conn outbox }

/-- The device whose request a step parks. -/
def AppState.parks (s : AppState) : ServerLabel → Option Uuid
  | .connection (.frame conn frame _) =>
    if (s.hub.inPhase conn .serving).isSome then
      (frame.envelope.filter (·.messageType = .devicePairRequest)).map (·.deviceId)
    else none
  | _ => none

/-- The undivided form of the calls that are split here. -/
def ServerLabel.decides : ServerLabel → Bool
  | .incomingAccept .. | .incomingReject .. => true
  | _ => false

namespace Decisions

/-- No call is in progress. -/
def start (app : AppState) : Decisions where
  app
  calls := .empty
  tickets := .start fun deviceId ↦ (app.pendingIncoming.get deviceId).isSome
  confirms := []

def put (s : Decisions) (id : CallId) (call : DecisionCall) (stage : CallStage) : Decisions :=
  { s with calls := s.calls.insert id { call with stage } }

/-- The parked request of the device is removed. -/
def takeRequest (s : Decisions) (id : CallId) (deviceId : Uuid) : Decisions :=
  { s with
    app := s.app.withCenter (removePending s.app.hub.center deviceId)
    tickets := s.tickets.take deviceId id }

/-- The confirmation is queued. -/
def confirm (s : Decisions) (tx : ConnId) (outbox : Outbox) (confirm : Confirm) : Decisions :=
  { s with
    app := s.app.withOutbox tx outbox
    confirms := confirm :: s.confirms }

/-- The next operation of a call. -/
def advance (s : Decisions) (ctx : WsContext) (id : CallId) (draws : Draws) : Option Decisions :=
  (s.calls.get id).bind fun call ↦
    match call.stage with
    | .called =>
      match s.app.pendingIncoming.get call.deviceId with
      | none => some (s.put id call (.answered noPending))
      | some _ => some ((s.takeRequest id call.deviceId).put id call
          (.taken (s.tickets.arrivals call.deviceId)))
    | .taken request =>
      if s.app.registry.isConnected call.deviceId then some (s.put id call (.connected request))
      else some (s.put id call (.answered call.decision.unconnected))
    | .connected request =>
      match s.app.registry.inner.get call.deviceId with
      | none =>
        some (s.put id call (.answered (call.decision.failed (.notConnected call.deviceId))))
      | some tx => some (s.put id call (.sending request tx))
    | .sending request tx =>
      let env := draws.envelope .devicePairConfirm ctx.ourDeviceId
        (PairConfirm.toValue { accepted := call.decision.accepted })
      match (s.app.registry.outboxes tx).trySend env with
      | none => some (s.put id call (.answered (call.decision.failed (.queueFull call.deviceId))))
      | some outbox => some ((s.confirm tx outbox {
            deviceId := call.deviceId, request, call := id
            accepted := call.decision.accepted }).put id call (.answered call.decision.sent))
    | .answered _ => none

def step (ctx : WsContext) (dbMessage : DbError → String) (s : Decisions) :
    DecisionLabel → Option Decisions
  | .server label =>
    if label.decides then none
    else (s.app.step ctx dbMessage label).map fun app ↦ { s with
      app
      tickets := ((s.app.parks label).map s.tickets.arrive).getD s.tickets }
  | .drain conn =>
    let outbox := s.app.registry.outboxes conn
    some { s with app := s.app.withOutbox conn { outbox with queue := outbox.queue.tail } }
  | .hangUp conn =>
    let outbox := s.app.registry.outboxes conn
    some { s with app := s.app.withOutbox conn { outbox with receiving := false } }
  | .call id decision deviceId =>
    if s.calls.contains id then none
    else some { s with calls := s.calls.insert id { decision, deviceId, stage := .called } }
  | .advance id draws => s.advance ctx id draws

end Decisions

/-! ## A call on its own -/

/-- The handler of a decision, undivided. -/
def Decision.handler (decision : Decision) (ctx : WsContext) (draws : Draws) (deviceId : Uuid)
    (center : Center Db) : Response × Center Db :=
  match decision with
  | .accept => incomingAccept ctx draws deviceId center
  | .reject => incomingReject ctx draws deviceId center

section Handlers

variable {decision : Decision} {ctx : WsContext} {draws : Draws} {deviceId : Uuid}
  {center : Center Db} {entry : PendingIncoming}

theorem Decision.handler_unparked
    (hparked : center.sessions.pendingIncoming.get deviceId = none) :
    decision.handler ctx draws deviceId center = (noPending, center) := by
  cases decision <;> simp [handler, incomingAccept, incomingReject, hparked, noPending]

theorem Decision.handler_unconnected
    (hparked : center.sessions.pendingIncoming.get deviceId = some entry)
    (hentry : center.registry.inner.get deviceId = none) :
    decision.handler ctx draws deviceId center =
      (decision.unconnected, removePending center deviceId) := by
  cases decision <;>
    simp [handler, incomingAccept, incomingReject, hparked, removePending, unconnected, sent,
      DeviceRegistry.isConnected, hentry]

variable {tx : ConnId} (hparked : center.sessions.pendingIncoming.get deviceId = some entry)
  (hentry : center.registry.inner.get deviceId = some tx)

include hparked hentry

theorem Decision.handler_full
    (hsend : (center.registry.outboxes tx).trySend (draws.envelope .devicePairConfirm
      ctx.ourDeviceId (PairConfirm.toValue { accepted := decision.accepted })) = none) :
    decision.handler ctx draws deviceId center =
      (decision.failed (.queueFull deviceId), removePending center deviceId) := by
  cases decision <;>
    simp only [accepted] at hsend <;>
    simp [handler, incomingAccept, incomingReject, hparked, removePending, failed, sent,
      DeviceRegistry.isConnected, DeviceRegistry.trySend, hentry, hsend, Except.toOption]

theorem Decision.handler_sent {outbox : Outbox}
    (hsend : (center.registry.outboxes tx).trySend (draws.envelope .devicePairConfirm
      ctx.ourDeviceId (PairConfirm.toValue { accepted := decision.accepted })) = some outbox) :
    decision.handler ctx draws deviceId center =
      (decision.sent, { removePending center deviceId with
        registry := center.registry.setOutbox tx outbox }) := by
  cases decision <;>
    simp only [accepted] at hsend <;>
    simp [handler, incomingAccept, incomingReject, hparked, removePending, sent,
      DeviceRegistry.isConnected, DeviceRegistry.trySend, hentry, hsend, Except.toOption]

end Handlers

/-- A call that nothing interrupts does what the handler does. -/
theorem Decisions.uninterrupted (ctx : WsContext) (dbMessage : DbError → String) (s : Decisions)
    (id : CallId) (decision : Decision) (deviceId : Uuid) (draws : Draws)
    (hfresh : s.calls.get id = none) :
    ∃ n t, Run.exec (step ctx dbMessage) s
        (.call id decision deviceId :: List.replicate n (.advance id draws)) = some t ∧
      t.app = s.app.withCenter (decision.handler ctx draws deviceId s.app.hub.center).2 ∧
      ∃ call, t.calls.get id = some call ∧
        call.stage = .answered (decision.handler ctx draws deviceId s.app.hub.center).1 := by
  cases hparked : s.app.hub.center.sessions.pendingIncoming.get deviceId with
  | none =>
    rw [Decision.handler_unparked hparked]
    use 1
    simp [List.replicate, step, hfresh, advance, AppState.pendingIncoming, hparked, put,
      AppState.withCenter]
  | some entry =>
    cases hentry : s.app.hub.center.registry.inner.get deviceId with
    | none =>
      rw [Decision.handler_unconnected hparked hentry]
      use 2
      simp [List.replicate, step, hfresh, advance, AppState.pendingIncoming, hparked, put,
        takeRequest, AppState.withCenter, AppState.registry, removePending,
        DeviceRegistry.isConnected, hentry]
    | some tx =>
      use 4
      cases hsend : (s.app.hub.center.registry.outboxes tx).trySend (draws.envelope
        .devicePairConfirm ctx.ourDeviceId (PairConfirm.toValue { accepted := decision.accepted }))
      with
      | none =>
        rw [Decision.handler_full hparked hentry hsend]
        simp [List.replicate, step, hfresh, advance, AppState.pendingIncoming, hparked, put,
          takeRequest, AppState.withCenter, AppState.registry, removePending,
          DeviceRegistry.isConnected, hentry, hsend]
      | some outbox =>
        rw [Decision.handler_sent hparked hentry hsend]
        simp [List.replicate, step, hfresh, advance, AppState.pendingIncoming, hparked, put,
          takeRequest, AppState.withCenter, AppState.registry, removePending,
          DeviceRegistry.isConnected, hentry, hsend, confirm, AppState.withOutbox]

/-! ## Who parks requests -/

/-- A frame parks a request for its sender when it is a `device.pair.request`. -/
theorem AppState.pendingIncoming_frame {s : AppState} {ctx : WsContext} {sink : WsSink Db}
    {conn : ConnId} {frame : Frame} {arrival : Arrival} {hub : Hub Db}
    (hhub : s.hub.step ctx sink (.frame conn frame arrival) = some hub) (deviceId : Uuid) :
    (hub.center.sessions.pendingIncoming.get deviceId).isSome =
      if s.parks (.connection (.frame conn frame arrival)) = some deviceId then true
      else (s.pendingIncoming.get deviceId).isSome := by
  obtain ⟨connection, hserving, -⟩ := Option.map_eq_some_iff.mp hhub
  cases henv : frame.envelope with
  | none =>
    rw [Hub.frame_of_none henv hhub]
    simp [parks, henv, pendingIncoming]
  | some env =>
    have hpending : hub.center.sessions.pendingIncoming =
        s.pendingIncoming.set env.deviceId
          (PendingIncoming.after arrival.dispatch env (s.pendingIncoming.get env.deviceId)) := by
      rw [(Hub.frame_of_envelope henv hhub).1, Center.sessions_handleEnvelope, dispatch_eq]
      rfl
    simp only [hpending, parks, hserving, Option.isSome_some, if_true, henv]
    by_cases hrequest : env.messageType = .devicePairRequest
    · by_cases hdevice : deviceId = env.deviceId
      · simp [hrequest, hdevice, PendingIncoming.after, Option.filter]
      · have hother : env.deviceId ≠ deviceId := Ne.symm hdevice
        simp [hrequest, hdevice, hother, Option.filter]
    · rw [pending_after_of_ne hrequest, KeyMap.set_get rfl]
      simp [hrequest, Option.filter]

/-- No handler but the two that decide takes a parked request away, and only a `device.pair.request`
on a live connection parks one. -/
theorem AppState.pendingIncoming_step {s t : AppState} {ctx : WsContext}
    {dbMessage : DbError → String} {label : ServerLabel} (hother : label.decides = false)
    (hstep : s.step ctx dbMessage label = some t) (deviceId : Uuid) :
    (t.pendingIncoming.get deviceId).isSome =
      if s.parks label = some deviceId then true else (s.pendingIncoming.get deviceId).isSome := by
  cases label with
  | connection label =>
    obtain ⟨hub, hhub, rfl⟩ := Option.map_eq_some_iff.mp hstep
    cases label with
    | accept conn stamp =>
      simp only [Hub.step, Hub.accept] at hhub
      split at hhub
      · cases hhub
      · cases hhub
        rfl
    | frame conn frame arrival => exact pendingIncoming_frame hhub deviceId
    | close conn =>
      obtain ⟨connection, -, rfl⟩ := Option.map_eq_some_iff.mp hhub
      rfl
    | streamError conn =>
      obtain ⟨connection, -, rfl⟩ := Option.map_eq_some_iff.mp hhub
      rfl
    | cleanup conn stamp =>
      obtain ⟨connection, -, rfl⟩ := Option.map_eq_some_iff.mp hhub
      dsimp only [Hub.put, pendingIncoming]
      split <;> rfl
  | pairStart draws other =>
    cases hstep
    rcases pairStart_sessions ctx draws other s.hub.center with
      ⟨-, initiator, -, hsessions⟩ | ⟨-, hsessions⟩
    · simp only [pendingIncoming, withCenter, hsessions]
      rfl
    · simp only [pendingIncoming, withCenter, hsessions]
      rfl
  | pairAccept draws dummy other code =>
    cases hstep
    rw [pairAccept_eq]
    rfl
  | pairReject draws dummy other reason =>
    cases hstep
    rw [pairReject_eq]
    rfl
  | incomingAccept => cases hother
  | incomingReject => cases hother
  | removeDevice now other =>
    cases hstep
    simp only [AppState.removeDevice, AppState.removed]
    split <;> rfl

namespace Decisions

/-! ## The record of a call -/

/-- The requests that a call has taken. -/
def takenBy (s : Decisions) (id : CallId) : List (Uuid × Nat) :=
  (s.tickets.taken.filter (·.2 = id)).map Prod.fst

/-- The confirmations that a call has queued. -/
def confirmsOf (s : Decisions) (id : CallId) : List Confirm := s.confirms.filter (·.call = id)

/-- What the answer of a call says about the requests it has taken and the confirmations it has
queued. -/
inductive Settled (id : CallId) (decision : Decision) (deviceId : Uuid) :
    Response → List (Uuid × Nat) → List Confirm → Prop
  | lost : Settled id decision deviceId noPending [] []
  | unconnected (request : Nat) :
    Settled id decision deviceId decision.unconnected [(deviceId, request)] []
  | failed (request : Nat) (e : DownstreamError) :
    Settled id decision deviceId (decision.failed e) [(deviceId, request)] []
  | sent (request : Nat) :
    Settled id decision deviceId decision.sent [(deviceId, request)]
      [{ deviceId, request, call := id, accepted := decision.accepted }]

/-- How far a call has come and what it has done. -/
def Matches (id : CallId) : Option DecisionCall → List (Uuid × Nat) → List Confirm → Prop
  | none, taken, confirms => taken = [] ∧ confirms = []
  | some call, taken, confirms =>
    match call.stage with
    | .called => taken = [] ∧ confirms = []
    | .taken request | .connected request | .sending request _ =>
      taken = [(call.deviceId, request)] ∧ confirms = []
    | .answered response => Settled id call.decision call.deviceId response taken confirms

/-- The record agrees with the maps, and no request is confirmed twice. -/
structure Accounted (s : Decisions) : Prop where
  waiting : ∀ deviceId,
    s.tickets.waiting deviceId = (s.app.pendingIncoming.get deviceId).isSome
  calls : ∀ id, Matches id (s.calls.get id) (s.takenBy id) (s.confirmsOf id)
  confirms : ∀ c ∈ s.confirms, ((c.deviceId, c.request), c.call) ∈ s.tickets.taken
  once : (s.confirms.map fun c ↦ (c.deviceId, c.request)).Nodup

theorem accounted_start (app : AppState) : (start app).Accounted where
  waiting _ := rfl
  calls _ := ⟨rfl, rfl⟩
  confirms _ hc := absurd hc List.not_mem_nil
  once := .nil

section Steps

variable {s t : Decisions} {id : CallId} {call : DecisionCall}

/-- A step of another handler: only the parked requests and the channels may change. -/
theorem Accounted.of_same (h : s.Accounted) (hcalls : t.calls = s.calls)
    (hconfirms : t.confirms = s.confirms) (htaken : t.tickets.taken = s.tickets.taken)
    (hwaiting : ∀ deviceId,
      t.tickets.waiting deviceId = (t.app.pendingIncoming.get deviceId).isSome) : t.Accounted where
  waiting := hwaiting
  calls id := by
    rw [takenBy, confirmsOf, hcalls, hconfirms, htaken]
    exact h.calls id
  confirms := by
    rw [hconfirms, htaken]
    exact h.confirms
  once := by
    rw [hconfirms]
    exact h.once

/-- A call goes on without touching a map or a channel. -/
theorem Accounted.put (h : s.Accounted) {stage : CallStage}
    (hstage : Matches id (some { call with stage }) (s.takenBy id) (s.confirmsOf id)) :
    (s.put id call stage).Accounted where
  waiting := h.waiting
  calls other := by
    by_cases hother : other = id
    · subst hother
      simp only [Decisions.put, KeyMap.get_insert_self]
      exact hstage
    · simp only [Decisions.put, KeyMap.get_insert_of_ne _ _ hother]
      exact h.calls other
  confirms := h.confirms
  once := h.once

/-- What a call has done that stands at a stage. -/
theorem Accounted.at_stage (h : s.Accounted) (hcall : s.calls.get id = some call) :
    Matches id (some call) (s.takenBy id) (s.confirmsOf id) := by
  have hmatches := h.calls id
  rwa [hcall] at hmatches

/-- A call takes the parked request of its device. -/
theorem Accounted.takeRequest (h : s.Accounted) (hcall : s.calls.get id = some call)
    (hstage : call.stage = .called) {entry : PendingIncoming}
    (hentry : s.app.pendingIncoming.get call.deviceId = some entry) :
    ((s.takeRequest id call.deviceId).put id call
      (.taken (s.tickets.arrivals call.deviceId))).Accounted := by
  have hwaiting : s.tickets.waiting call.deviceId = true := by
    rw [h.waiting, hentry]
    rfl
  have htaken : (s.takeRequest id call.deviceId).tickets.taken =
      ((call.deviceId, s.tickets.arrivals call.deviceId), id) :: s.tickets.taken :=
    s.tickets.taken_take hwaiting
  have hnothing := h.at_stage hcall
  simp only [Matches, hstage] at hnothing
  constructor
  · intro other
    change (s.tickets.take call.deviceId id).waiting other =
      ((s.app.pendingIncoming.remove call.deviceId).get other).isSome
    rw [Tickets.waiting_take, KeyMap.get_remove, h.waiting]
    split <;> rfl
  · intro other
    by_cases hother : other = id
    · subst hother
      have hown : (s.takeRequest other call.deviceId).takenBy other =
          [(call.deviceId, s.tickets.arrivals call.deviceId)] := by
        rw [takenBy, htaken, List.filter_cons_of_pos (by simp), List.map_cons]
        exact congrArg _ hnothing.1
      simp only [Decisions.put, KeyMap.get_insert_self]
      exact ⟨hown, hnothing.2⟩
    · have hframe : (s.takeRequest id call.deviceId).takenBy other = s.takenBy other := by
        rw [takenBy, htaken, List.filter_cons_of_neg (by simpa using Ne.symm hother)]
        rfl
      have hmatches := h.calls other
      simp only [Decisions.put, KeyMap.get_insert_of_ne _ _ hother]
      rw [← hframe] at hmatches
      exact hmatches
  · intro c hc
    change _ ∈ (s.takeRequest id call.deviceId).tickets.taken
    rw [htaken]
    exact List.mem_cons_of_mem _ (h.confirms c hc)
  · exact h.once

/-- A call queues the confirmation of the request it has taken. -/
theorem Accounted.confirm (h : s.Accounted) (hcall : s.calls.get id = some call) {request : Nat}
    {tx : ConnId} (hstage : call.stage = .sending request tx) (outbox : Outbox) :
    ((s.confirm tx outbox {
        deviceId := call.deviceId, request, call := id
        accepted := call.decision.accepted }).put id call
      (.answered call.decision.sent)).Accounted := by
  obtain ⟨htaken, hnothing⟩ : s.takenBy id = [(call.deviceId, request)] ∧ s.confirmsOf id = [] := by
    have hmatches := h.at_stage hcall
    simpa only [Matches, hstage] using hmatches
  have hmine : ((call.deviceId, request), id) ∈ s.tickets.taken := by
    have hmem : (call.deviceId, request) ∈ s.takenBy id := by
      rw [htaken]
      exact List.mem_singleton_self _
    obtain ⟨entry, hentry, heq⟩ := List.mem_map.mp hmem
    obtain ⟨hentry, htaker⟩ := List.mem_filter.mp hentry
    rwa [← heq, ← of_decide_eq_true htaker]
  constructor
  · exact h.waiting
  · intro other
    by_cases hother : other = id
    · subst hother
      simp only [Decisions.put, KeyMap.get_insert_self]
      change Settled other call.decision call.deviceId call.decision.sent (s.takenBy other)
        (List.filter _ (_ :: s.confirms))
      rw [htaken, List.filter_cons_of_pos (by simp), show s.confirms.filter _ = [] from hnothing]
      exact .sent request
    · have hmatches := h.calls other
      simp only [Decisions.put, KeyMap.get_insert_of_ne _ _ hother]
      have hframe : (s.confirm tx outbox {
          deviceId := call.deviceId, request, call := id
          accepted := call.decision.accepted }).confirmsOf other = s.confirmsOf other := by
        rw [confirmsOf, Decisions.confirm, List.filter_cons_of_neg (by simpa using Ne.symm hother)]
        rfl
      rw [← hframe] at hmatches
      exact hmatches
  · intro c hc
    rcases List.mem_cons.mp hc with rfl | hc
    · exact hmine
    · exact h.confirms c hc
  · refine List.nodup_cons.mpr ⟨fun hmem ↦ ?_, h.once⟩
    -- an earlier confirmation of the same request would be one of this call
    obtain ⟨c, hc, heq⟩ := List.mem_map.mp hmem
    have htaker := h.confirms c hc
    rw [heq] at htaker
    have hown : c ∈ s.confirmsOf id :=
      List.mem_filter.mpr ⟨hc, decide_eq_true (s.tickets.taker_unique htaker hmine)⟩
    rw [hnothing] at hown
    cases hown

/-- The next operation of a call keeps the account. -/
theorem Accounted.advance (h : s.Accounted) {ctx : WsContext} {draws : Draws}
    (hstep : s.advance ctx id draws = some t) : t.Accounted := by
  obtain ⟨call, hcall, hnext⟩ := Option.bind_eq_some_iff.mp hstep
  have hmatches := h.at_stage hcall
  cases hstage : call.stage with
  | called =>
    simp only [Matches, hstage] at hmatches
    simp only [hstage] at hnext
    split at hnext
    · cases hnext
      apply h.put
      rw [hmatches.1, hmatches.2]
      exact .lost
    · next entry hentry =>
      cases hnext
      exact h.takeRequest hcall hstage hentry
  | taken request =>
    simp only [Matches, hstage] at hmatches
    simp only [hstage] at hnext
    split at hnext
    · cases hnext
      exact h.put hmatches
    · cases hnext
      apply h.put
      rw [hmatches.1, hmatches.2]
      exact .unconnected request
  | connected request =>
    simp only [Matches, hstage] at hmatches
    simp only [hstage] at hnext
    split at hnext
    · cases hnext
      apply h.put
      rw [hmatches.1, hmatches.2]
      exact .failed request _
    · cases hnext
      exact h.put hmatches
  | sending request tx =>
    simp only [Matches, hstage] at hmatches
    simp only [hstage] at hnext
    split at hnext
    · cases hnext
      apply h.put
      rw [hmatches.1, hmatches.2]
      exact .failed request _
    · next outbox hsend =>
      cases hnext
      exact h.confirm hcall hstage outbox
  | answered response =>
    simp only [hstage] at hnext
    cases hnext

/-- Every step keeps the account. -/
theorem Accounted.step (h : s.Accounted) {ctx : WsContext} {dbMessage : DbError → String}
    {label : DecisionLabel} (hstep : s.step ctx dbMessage label = some t) : t.Accounted := by
  cases label with
  | server label =>
    simp only [Decisions.step] at hstep
    split at hstep
    · cases hstep
    next hother =>
      obtain ⟨app, happ, rfl⟩ := Option.map_eq_some_iff.mp hstep
      have hpending := AppState.pendingIncoming_step (by simpa using hother) happ
      cases hparks : s.app.parks label with
      | none =>
        refine h.of_same rfl rfl rfl fun deviceId ↦ ?_
        rw [hpending, hparks]
        exact h.waiting deviceId
      | some place =>
        refine h.of_same rfl rfl rfl fun deviceId ↦ ?_
        rw [hpending, hparks]
        simp only [Option.map_some, Option.getD_some, Tickets.arrive, Option.some.injEq,
          h.waiting, @eq_comm _ deviceId]
  | drain conn =>
    cases hstep
    exact h.of_same rfl rfl rfl h.waiting
  | hangUp conn =>
    cases hstep
    exact h.of_same rfl rfl rfl h.waiting
  | call id decision deviceId =>
    simp only [Decisions.step] at hstep
    split at hstep
    · cases hstep
    next hfresh =>
      cases hstep
      have hnothing := h.calls id
      have hnone : s.calls.get id = none := by simpa using hfresh
      rw [hnone] at hnothing
      change (s.put id { decision, deviceId, stage := .called } .called).Accounted
      exact h.put hnothing
  | advance id draws => exact h.advance hstep

end Steps

end Decisions

end PhoneBridge.MessageCenter
