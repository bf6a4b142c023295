import PhoneBridge.MessageCenter.Builders
import PhoneBridge.MessageCenter.DeviceRemoval
import PhoneBridge.Net.ConnectionLifecycle

/-!
# Outgoing messages

Two handlers put an `sms.send.request` on a phone's channel. `send_sms` of the console then inserts
the row of the message, in a statement of its own whose failure nobody is told; the quick reply of a
display writes a line of the audit log instead.
-/

namespace PhoneBridge.MessageCenter

open Library Proto Net Storage

/-- An `sms.send.request` that has been queued for a phone. -/
structure SmsRequest where
  deviceId : Uuid
  id : Uuid
  recipient : String
  body : String
  deriving DecidableEq, Repr

/-- The request that an envelope to a device makes. -/
def requestOf (deviceId : Uuid) (env : Envelope) : Option SmsRequest :=
  if env.messageType = .smsSendRequest then
    (env.parsePayload SmsSendRequest.parse).toOption.map fun payload ↦ {
      deviceId
      id := env.id
      recipient := payload.recipient
      body := payload.body }
  else none

theorem deviceId_of_requestOf {deviceId : Uuid} {env : Envelope} {request : SmsRequest}
    (h : requestOf deviceId env = some request) : request.deviceId = deviceId := by
  unfold requestOf at h
  split at h
  · obtain ⟨payload, -, rfl⟩ := Option.map_eq_some_iff.mp h
    rfl
  · cases h

/-- The request that is queued when an envelope is sent to a device. -/
def queuedRequest (registry : DeviceRegistry) (deviceId : Uuid) (env : Envelope) :
    Option SmsRequest :=
  match registry.trySend deviceId env with
  | .error _ => none
  | .ok _ => requestOf deviceId env

/-- The row of a request. -/
def RowOf (request : SmsRequest) (row : SmsRow) : Prop :=
  row.direction = "out" ∧ row.id = request.id.toText ∧ row.deviceId = request.deviceId ∧
    row.phoneNumber = request.recipient ∧ row.body = request.body

instance (request : SmsRequest) (row : SmsRow) : Decidable (RowOf request row) := by
  unfold RowOf
  infer_instance

/-- The center with the rows that calls of `send_sms` have yet to insert. No step reads the requests
that have been queued so far. -/
structure SmsDesk where
  hub : Hub DeskStore
  inserting : List SmsRow
  requests : List SmsRequest

inductive SmsLabel
  /-- a step of another handler, an action of a display, or `send_sms` up to its row -/
  | handler (label : SenderLabel)
  /-- a call of `send_sms` inserts its row, or is cut off before -/
  | insertSms (row : SmsRow) (outage : Outage)
  | removeDevice (auditOutage deleteOutage : Outage) (now : Int64) (deviceId : Uuid)
  /-- the center stops and starts again over the same database -/
  | restart

/-- The row that `send_sms` inserts. -/
def sentRow (requestId : Uuid) (req : SendSmsRequest) (now : Int64) : SmsRow where
  id := requestId.toText
  deviceId := req.deviceId
  simSlot := none
  phoneNumber := req.recipient
  body := req.body
  direction := "out"
  timestamp := now

/-- `DELETE /api/v1/devices/{id}`; the pinned fingerprints take no part. -/
def removeDeskDevice (auditOutage deleteOutage : Outage)
    (statementMessage : StatementError → String) (now : Int64) (deviceId : Uuid)
    (center : Center DeskStore) : Center DeskStore :=
  let app : AppState := {
    hub := {
      center := {
        sessions := center.sessions
        registry := center.registry
        store := center.store.db }
      connections := .empty }
    pinStore := .empty }
  let after := (app.removeDeviceUnder auditOutage deleteOutage statementMessage now deviceId).2
  { sessions := after.hub.center.sessions
    registry := after.hub.center.registry
    store := { center.store with db := after.hub.center.store } }

namespace SmsDesk

variable (ctx : WsContext) (statementMessage : StatementError → String)

/-- The center has just started. -/
def start (hub : Hub DeskStore) : SmsDesk := { hub, inserting := [], requests := [] }

def db (s : SmsDesk) : Db := s.hub.center.store.db

def registry (s : SmsDesk) : DeviceRegistry := s.hub.center.registry

def setCenter (s : SmsDesk) (center : Center DeskStore) : SmsDesk :=
  { s with hub := { s.hub with center } }

/-- `send_sms` up to the row. -/
def sendSms (s : SmsDesk) (draws : Draws) (requestId : Uuid) (req : SendSmsRequest) : SmsDesk :=
  if ¬ s.registry.isConnected req.deviceId then s
  else
    match s.registry.trySend req.deviceId (sendSmsEnvelope ctx draws requestId req) with
    | .error _ => s
    | .ok registry => { s.setCenter { s.hub.center with registry } with
        inserting := sentRow requestId req draws.now :: s.inserting
        requests := (requestOf req.deviceId (sendSmsEnvelope ctx draws requestId req)).toList ++
          s.requests }

/-- The request that an action of a display queues. -/
def replyRequest (s : SmsDesk) (draws : Draws) (action : DisplayAction) : Option SmsRequest :=
  (displayEnvelope ctx draws action).bind (queuedRequest s.registry action.deviceId)

def step (s : SmsDesk) : SmsLabel → Option SmsDesk
  | .handler (.sendSms draws requestId req) => some (s.sendSms ctx draws requestId req)
  | .handler (.action draws action) =>
    some { s.setCenter (handleDisplayAction ctx (fun e ↦ statementMessage (.constraint e)) draws
      action s.hub.center) with
      requests := (s.replyRequest ctx draws action).toList ++ s.requests }
  | .handler label =>
    (Sender.step ctx (fun e ↦ statementMessage (.constraint e)) s.hub label).map fun hub ↦
      { s with hub }
  | .insertSms row outage =>
    if row ∈ s.inserting then
      let db := s.db.afterStatement (execute outage (s.db.insertSms row))
      some { s.setCenter (setDb db s.hub.center) with inserting := s.inserting.erase row }
    else none
  | .removeDevice auditOutage deleteOutage now deviceId =>
    some (s.setCenter (removeDeskDevice auditOutage deleteOutage statementMessage now deviceId
      s.hub.center))
  | .restart => some { s with
      hub := .start .empty { db := s.db, displayBus := [] }
      inserting := [] }

/-! ## `send_sms` -/

section SendSms

/-- The request of a call of `send_sms`. -/
def sentRequest (requestId : Uuid) (req : SendSmsRequest) : SmsRequest where
  deviceId := req.deviceId
  id := requestId
  recipient := req.recipient
  body := req.body

theorem requestOf_sendSmsEnvelope (draws : Draws) (requestId : Uuid) (req : SendSmsRequest) :
    requestOf req.deviceId (sendSmsEnvelope ctx draws requestId req) =
      some (sentRequest requestId req) := by
  simp [requestOf, sendSmsEnvelope, Draws.envelope, Envelope.new, Envelope.parsePayload,
    sentRequest, Except.toOption]

theorem rowOf_sentRow (requestId : Uuid) (req : SendSmsRequest) (now : Int64) :
    RowOf (sentRequest requestId req) (sentRow requestId req now) :=
  ⟨rfl, rfl, rfl, rfl, rfl⟩

/-- A call of `send_sms` queues nothing, or a request whose row it goes on to insert. -/
theorem sendSms_cases (s : SmsDesk) (draws : Draws) (requestId : Uuid) (req : SendSmsRequest) :
    s.sendSms ctx draws requestId req = s ∨
      ((s.sendSms ctx draws requestId req).db = s.db ∧
        (s.sendSms ctx draws requestId req).inserting =
          sentRow requestId req draws.now :: s.inserting ∧
        (s.sendSms ctx draws requestId req).requests =
          sentRequest requestId req :: s.requests) := by
  unfold sendSms
  split
  · exact .inl rfl
  split
  · exact .inl rfl
  · rw [requestOf_sendSmsEnvelope]
    exact .inr ⟨rfl, rfl, rfl⟩

/-- The two parts of a call, one right after the other, are the call as a whole. -/
theorem sendSms_whole (s : SmsDesk) (draws : Draws) (requestId : Uuid) (req : SendSmsRequest) :
    s.sendSms ctx draws requestId req = s ∧
        (MessageCenter.sendSms ctx draws requestId req s.hub.center).2 = s.hub.center ∨
      step ctx statementMessage (s.sendSms ctx draws requestId req)
          (.insertSms (sentRow requestId req draws.now) none) =
        some { s.setCenter (MessageCenter.sendSms ctx draws requestId req s.hub.center).2 with
          requests := sentRequest requestId req :: s.requests } := by
  by_cases hconnected : s.hub.center.registry.isConnected req.deviceId = true
  · cases hsent : s.hub.center.registry.trySend req.deviceId
        (sendSmsEnvelope ctx draws requestId req) with
    | error e => exact .inl (by simp [sendSms, MessageCenter.sendSms, registry, hconnected, hsent])
    | ok sent =>
      apply Or.inr
      simp only [sendSms, MessageCenter.sendSms, registry, hconnected, hsent, step,
        requestOf_sendSmsEnvelope, not_true_eq_false, if_false, List.mem_cons, true_or, if_true,
        List.erase_cons_head, afterStatement_none]
      rfl
  · exact .inl (by simp [sendSms, MessageCenter.sendSms, registry, hconnected])

end SendSms

/-! ## What is on the channels -/

/-- The envelope is none of the `sms.send.request`s, or one of those that have been recorded. -/
def Recorded (requests : List SmsRequest) (env : Envelope) : Prop :=
  env.messageType = .smsSendRequest →
    ∃ request ∈ requests, requestOf request.deviceId env = some request

/-- Whatever `sms.send.request` waits on the channels is one of the requests. -/
def OnlyRequests (requests : List SmsRequest) (registry : DeviceRegistry) : Prop :=
  registry.EveryQueued (Recorded requests)

section Handlers

variable {requests : List SmsRequest} {registry : DeviceRegistry} {env : Envelope}

/-- What a try puts on a channel is recorded, if it can be read. -/
theorem onlyRequests_queued (h : OnlyRequests requests registry) (deviceId : Uuid)
    (henv : env.messageType = .smsSendRequest → (requestOf deviceId env).isSome = true) :
    OnlyRequests ((queuedRequest registry deviceId env).toList ++ requests)
      ((registry.trySend deviceId env).toOption.getD registry) := by
  rw [queuedRequest]
  cases hsent : registry.trySend deviceId env with
  | error e => exact h
  | ok sent =>
    have hmore : OnlyRequests ((requestOf deviceId env).toList ++ requests) registry := by
      intro conn queued hqueued htype
      obtain ⟨request, hrequest, hrequestOf⟩ := h conn queued hqueued htype
      exact ⟨request, List.mem_append_right _ hrequest, hrequestOf⟩
    apply hmore.trySend _ hsent
    intro htype
    obtain ⟨request, hrequest⟩ := Option.isSome_iff_exists.mp (henv htype)
    refine ⟨request, by simp [hrequest], ?_⟩
    rw [deviceId_of_requestOf hrequest]
    exact hrequest

/-- No reply of the dispatcher is an `sms.send.request`. -/
theorem messageType_reply {draws : Draws} {env reply : Envelope} {session : Option DeviceSession}
    (hreply : DeviceSession.reply ctx draws env session = some reply) :
    reply.messageType ≠ .smsSendRequest := by
  unfold DeviceSession.reply at hreply
  split at hreply
  · cases hreply
    simp [Draws.envelope, Envelope.new]
  · split at hreply
    · cases hreply
    · cases hreply
      simp [Initiator.buildRejectEnvelope, Draws.envelope, Envelope.new]
  · split at hreply
    · cases hreply
      simp [Initiator.buildCompleteEnvelope, Draws.envelope, Envelope.new]
    · cases hreply
  · cases hreply

/-- Only `send_sms` and the actions of a display make an `sms.send.request`. -/
theorem messageType_of_uses {label : SenderLabel} {builder : RustBuilder}
    (hlabel : match label with | .sendSms .. | .action .. => False | _ => True)
    (huses : Sender.Uses ctx label builder) (henv : builder.envelope = some env) :
    env.messageType ≠ .smsSendRequest := by
  cases huses with
  | hello label stamp =>
    cases henv
    simp [buildDesktopHello, Envelope.new]
  | reply label draws env sessions =>
    rw [RustBuilder.envelope, dispatch_eq] at henv
    exact messageType_reply ctx henv
  | request draws deviceId initiator =>
    rw [RustBuilder.envelope, Initiator.buildRequestEnvelope] at henv
    split at henv
    · cases henv
    · cases henv
      simp [Draws.envelope, Envelope.new]
  | accept draws deviceId =>
    cases henv
    simp [Draws.envelope, Envelope.new]
  | reject draws deviceId =>
    cases henv
    simp [Draws.envelope, Envelope.new]
  | dismissal draws deviceId id row =>
    cases henv
    simp [dismissedEnvelope, Draws.envelope, Envelope.new]
  | dial draws req =>
    cases henv
    simp [dialEnvelope, Draws.envelope, Envelope.new]
  | sendSms draws requestId req => exact hlabel.elim
  | action draws action => exact hlabel.elim

/-- An action of a display can be read as a request, if it makes one. -/
theorem requestOf_displayEnvelope {draws : Draws} {action : DisplayAction} {env : Envelope}
    (henv : displayEnvelope ctx draws action = some env) (deviceId : Uuid)
    (htype : env.messageType = .smsSendRequest) : (requestOf deviceId env).isSome = true := by
  unfold displayEnvelope actionRequest at henv
  split at henv
  · obtain ⟨request, hrequest, rfl⟩ := Option.map_eq_some_iff.mp henv
    obtain ⟨recipient, -, hreply⟩ := Option.bind_eq_some_iff.mp hrequest
    obtain ⟨body, -, rfl⟩ := Option.map_eq_some_iff.mp hreply
    simp [requestOf, Draws.envelope, Envelope.new, Envelope.parsePayload, Except.toOption]
  · cases henv
    simp [Draws.envelope, Envelope.new] at htype
  · cases henv
    simp [Draws.envelope, Envelope.new] at htype
  · cases henv
    simp [Draws.envelope, Envelope.new] at htype
  · cases henv

/-- A step of a handler that is not written out in `step`. -/
theorem step_other (s : SmsDesk) {label : SenderLabel}
    (hlabel : match label with | .sendSms .. | .action .. => False | _ => True) :
    step ctx statementMessage s (.handler label) =
      (Sender.step ctx (fun e ↦ statementMessage (.constraint e)) s.hub label).map fun hub ↦
        { s with hub } := by
  cases label with
  | sendSms => exact hlabel.elim
  | action => exact hlabel.elim
  | _ => rfl

/-- Every `sms.send.request` that a step puts on a channel is recorded. -/
theorem onlyRequests_step {s next : SmsDesk} {label : SmsLabel}
    (h : OnlyRequests s.requests s.registry)
    (hstep : step ctx statementMessage s label = some next) :
    OnlyRequests next.requests next.registry := by
  cases label with
  | insertSms row outage =>
    by_cases hrow : row ∈ s.inserting
    · simp only [step, hrow, if_true, Option.some.injEq] at hstep
      subst hstep
      exact h
    · simp [step, hrow] at hstep
  | removeDevice auditOutage deleteOutage now deviceId =>
    cases hstep
    intro conn env henv
    apply h conn env
    have houtboxes : (removeDeskDevice auditOutage deleteOutage statementMessage now deviceId
        s.hub.center).registry.outboxes = s.registry.outboxes := by
      unfold removeDeskDevice AppState.removeDeviceUnder AppState.removed
      dsimp only
      split <;> rfl
    rw [← houtboxes]
    exact henv
  | restart =>
    cases hstep
    intro conn env henv
    cases henv
  | handler label =>
    cases label with
    | sendSms draws requestId req =>
      cases hstep
      unfold sendSms
      split
      · exact h
      · have hqueued := onlyRequests_queued h req.deviceId fun _ ↦ Option.isSome_of_eq_some
          (requestOf_sendSmsEnvelope ctx draws requestId req)
        rw [queuedRequest] at hqueued
        split
        · exact h
        · next sent hsent =>
          rw [hsent] at hqueued
          exact hqueued
    | action draws action =>
      cases hstep
      change OnlyRequests ((s.replyRequest ctx draws action).toList ++ s.requests)
        (handleDisplayAction ctx _ draws action s.hub.center).registry
      rw [registry_handleDisplayAction, replyRequest]
      cases henv : displayEnvelope ctx draws action with
      | none => exact h
      | some env =>
        exact onlyRequests_queued h action.deviceId
          (requestOf_displayEnvelope ctx henv action.deviceId)
    | _ =>
      rw [step_other ctx statementMessage s trivial] at hstep
      obtain ⟨hub, hhub, rfl⟩ := Option.map_eq_some_iff.mp hstep
      exact Sender.everyQueued_step h (fun builder env huses henv htype ↦
        absurd htype (messageType_of_uses ctx trivial huses henv)) hhub

/-- In every run whatever `sms.send.request` waits on a channel is one of the requests. -/
theorem onlyRequests_run {s next : SmsDesk} {labels : List SmsLabel}
    (h : OnlyRequests s.requests s.registry)
    (hrun : Run.exec (step ctx statementMessage) s labels = some next) :
    OnlyRequests next.requests next.registry :=
  Run.invariant (fun s : SmsDesk ↦ OnlyRequests s.requests s.registry)
    (fun _ _ _ hbefore hstep ↦ onlyRequests_step ctx statementMessage hbefore hstep) hrun h

end Handlers

end SmsDesk

end PhoneBridge.MessageCenter
