import PhoneBridge.Library.Programs
import PhoneBridge.MessageCenter.Commands
import PhoneBridge.MessageCenter.DeskActions
import PhoneBridge.Storage.Outages

/-!
# The answer to an action of a display

`handle_display_action` as a task: the registry is asked, an envelope is built, a sender is looked
up, its channel takes the envelope or does not, statements are executed or fail, and events are
published. Other tasks may act before each of these operations. Whatever they do, one honest result
is published.
-/

namespace PhoneBridge.MessageCenter

open Library Proto Net Storage

/-! ## Operations -/

/-- What the task has done, with the shared state it has found. -/
inductive DisplayEffect
  | checked (registry : DeviceRegistry)
  | lookedUp (registry : DeviceRegistry)
  | enqueued (conn : ConnId) (env : Envelope) (before after : DeviceRegistry)
  | updated (before after : Db)
  | published (event : DisplayEvent)

/-- What an operation takes from its surroundings. -/
structure DisplayMoment where
  /-- what other tasks have done since the last operation -/
  meanwhile : Center DeskStore → Center DeskStore
  now : Int64
  freshId : Uuid
  /-- what keeps the database from executing a statement -/
  outage : Outage
  /-- why an envelope cannot be built -/
  buildFailure : Option String

/-- The shared state, with what the task has done so far. -/
structure DisplayWorld where
  center : Center DeskStore
  moment : Nat
  trace : List DisplayEffect

namespace DisplayTask

abbrev Task := StateM DisplayWorld

section Operations

variable {α : Type} (script : Nat → DisplayMoment)

/-- Other tasks act, then the operation changes the center and is recorded. -/
def act (operation : DisplayMoment → Center DeskStore → α × Center DeskStore × List DisplayEffect) :
    Task α := fun world ↦
  let now := script world.moment
  let (result, center, effects) := operation now (now.meanwhile world.center)
  (result, { center, moment := world.moment + 1, trace := world.trace ++ effects })

/-- `registry.connected_ids().contains(…)` -/
def isConnected (deviceId : Uuid) : Task Bool := act script fun _ center ↦
  (center.registry.isConnected deviceId, center, [.checked center.registry])

/-- `Envelope::new` -/
def newEnvelope (ctx : WsContext) (messageType : MessageType) (payload : Json) :
    Task (Except String Envelope) := act script fun now center ↦
  match now.buildFailure with
  | some e => (.error e, center, [])
  | none => (.ok (.new now.freshId now.now messageType ctx.ourDeviceId payload), center, [])

/-- The sender of a device, cloned under the registry's lock. -/
def lookUp (deviceId : Uuid) : Task (Option ConnId) := act script fun _ center ↦
  (center.registry.inner.get deviceId, center, [.lookedUp center.registry])

/-- The channel takes the envelope, unless it is full or closed. -/
def channelTrySend (tx : ConnId) (env : Envelope) : Task Bool := act script fun _ center ↦
  match (center.registry.outboxes tx).trySend env with
  | none => (false, center, [])
  | some outbox =>
    let registry := center.registry.setOutbox tx outbox
    (true, { center with registry }, [.enqueued tx env center.registry registry])

/-- `DeviceRegistry::try_send` -/
def trySend (deviceId : Uuid) (env : Envelope) : Task (Except DownstreamError Unit) := do
  match ← lookUp script deviceId with
  | none => return .error (.notConnected deviceId)
  | some tx =>
    if ← channelTrySend script tx env then return .ok ()
    else return .error (.queueFull deviceId)

/-- Execute a statement. -/
def statement (query : Int64 → Db → Except DbError (α × Db)) : Task (Except StatementError α) :=
  act script fun now center ↦
    match execute now.outage (query now.now center.store.db) with
    | .error e => (.error e, center, [])
    | .ok (value, db) => (.ok value, setDb db center, [.updated center.store.db db])

def publish (event : Int64 → DisplayEvent) : Task Unit := act script fun now center ↦
  ((), MessageCenter.publish (event now.now) center, [.published (event now.now)])

end Operations

/-! ## The handlers -/

section Handlers

variable (ctx : WsContext) (statementMessage : StatementError → String)
  (script : Nat → DisplayMoment) (action : DisplayAction)

def publishActionResult (ok : Bool) (code message : Option String) : Task Unit :=
  publish script (resultEvent action ok code message)

def publishPhoneOffline : Task Unit := do
  publish script (offlineEvent action)
  let id := action.deviceId.toText
  publishActionResult script action false (some "phone_offline")
    (some s!"device {id} is not currently connected")

/-- Build an envelope, send it to the phone and go on, or report the failure. -/
def deliver (messageType : MessageType) (payload : Json) (sent : Task Unit) : Task Unit := do
  match ← newEnvelope script ctx messageType payload with
  | .error e =>
    publishActionResult script action false (some "internal_error") (some s!"build envelope: {e}")
  | .ok env =>
    match ← trySend script action.deviceId env with
    | .error e =>
      let reason := downstreamMessage e
      publishActionResult script action false (some "phone_error") (some s!"send: {reason}")
    | .ok () =>
      sent
      publishActionResult script action true none none

def doSmsReply : Task Unit :=
  match action.recipient.filter (· ≠ "") with
  | none => publishActionResult script action false (some "bad_request")
      (some "sms.reply requires `to`")
  | some recipient =>
    match action.body.filter (· ≠ "") with
    | none => publishActionResult script action false (some "bad_request")
        (some "sms.reply requires `body`")
    | some body =>
      deliver ctx script action .smsSendRequest
        (SmsSendRequest.toValue { recipient, body, subscriptionId := none }) do
          let _ ← statement script fun now db ↦ (db.insertAuditLog now (some action.deviceId)
            "display.sms_reply" none).map fun db ↦ ((), db)

def doNotificationRead : Task Unit := do
  match ← statement script fun _ db ↦
      (db.markNotificationRead action.deviceId action.envelopeId.toText).map fun db ↦ ((), db) with
  | .error e =>
    let reason := statementMessage e
    publishActionResult script action false (some "internal_error") (some s!"db: {reason}")
  | .ok () => publishActionResult script action true none none

def doNotificationDismiss : Task Unit :=
  deliver ctx script action .notificationDismissed
    (NotificationDismissed.toValue { id := action.envelopeId.toText }) do
      let _ ← statement script fun _ db ↦
        db.dismissNotification action.deviceId action.envelopeId.toText

def doCallAnswer : Task Unit :=
  deliver ctx script action .callAnswerRequest (CallAnswerRequest.toValue {}) (pure ())

def doCallEnd : Task Unit :=
  deliver ctx script action .callEndRequest (CallEndRequest.toValue {}) (pure ())

/-- What is done with an action whose phone has been found connected. -/
def dispatch : Task Unit :=
  match action.kind with
  | "sms.reply" => doSmsReply ctx script action
  | "notification.read" => doNotificationRead statementMessage script action
  | "notification.dismiss" => doNotificationDismiss ctx script action
  | "call.answer" => doCallAnswer ctx script action
  | "call.end" => doCallEnd ctx script action
  | other =>
    publishActionResult script action false (some "bad_request")
      (some s!"unknown action kind: {other}")

/-- Process a single action from the client. -/
def handleDisplayAction : Task Unit := do
  if ¬ (← isConnected script action.deviceId) then
    publishPhoneOffline script action
  else
    dispatch ctx statementMessage script action

end Handlers

/-! ## No other task acts -/

/-- No other task acts, nothing fails, and every operation finds the same clock and draws. -/
def alone (draws : Draws) : DisplayMoment where
  meanwhile := id
  now := draws.now
  freshId := draws.freshId
  outage := none
  buildFailure := none

/-- What a task does to the center when it runs alone. -/
abbrev Does {α : Type} (task : Task α) (before : Center DeskStore) (a : α)
    (after : Center DeskStore) : Prop :=
  Computes DisplayWorld.center task before a after

section Alone

variable (ctx : WsContext) (statementMessage : StatementError → String) (draws : Draws)
  (action : DisplayAction) (center : Center DeskStore)

theorem does_act {α : Type}
    (operation : DisplayMoment → Center DeskStore → α × Center DeskStore × List DisplayEffect) :
    Does (act (fun _ ↦ alone draws) operation) center (operation (alone draws) center).1
      (operation (alone draws) center).2.1 := by
  rintro world rfl
  exact ⟨rfl, rfl⟩

theorem does_publishActionResult (ok : Bool) (code message : Option String) :
    Does (publishActionResult (fun _ ↦ alone draws) action ok code message) center ()
      (MessageCenter.publishActionResult draws.now action ok code message center) :=
  does_act draws center _

/-- A failed statement changes nothing. -/
theorem does_statement {α : Type} (query : Int64 → Db → Except DbError (α × Db)) :
    Does (statement (fun _ ↦ alone draws) query) center
      (((query draws.now center.store.db).map Prod.fst).mapError .constraint)
      (setDb (warned center.store.db ((query draws.now center.store.db).map Prod.snd)) center) := by
  rintro world rfl
  simp only [statement, act, StateT.run, alone, id]
  cases query draws.now world.center.store.db <;> exact ⟨rfl, rfl⟩

theorem does_channelTrySend (tx : ConnId) (env : Envelope) :
    Does (channelTrySend (fun _ ↦ alone draws) tx env) center
      ((center.registry.outboxes tx).trySend env).isSome
      { center with registry := (((center.registry.outboxes tx).trySend env).map
        (center.registry.setOutbox tx)).getD center.registry } := by
  rintro world rfl
  simp only [channelTrySend, act, StateT.run, alone, id]
  cases (world.center.registry.outboxes tx).trySend env <;> exact ⟨rfl, rfl⟩

theorem does_trySend (deviceId : Uuid) (env : Envelope) :
    Does (trySend (fun _ ↦ alone draws) deviceId env) center
      ((center.registry.trySend deviceId env).map fun _ ↦ ())
      { center with registry :=
        (center.registry.trySend deviceId env).toOption.getD center.registry } := by
  have hlooked : Does (lookUp (fun _ ↦ alone draws) deviceId) center
      (center.registry.inner.get deviceId) center := does_act draws center _
  apply hlooked.bind
  unfold DeviceRegistry.trySend
  cases center.registry.inner.get deviceId with
  | none => exact Computes.pure
  | some tx =>
    apply (does_channelTrySend draws center tx env).bind
    dsimp only
    cases (center.registry.outboxes tx).trySend env <;> exact Computes.pure

/-- The delivery of an envelope, with what follows it. -/
theorem does_deliver (messageType : MessageType) (payload : Json) {sent : Task Unit}
    {after : Center DeskStore → Center DeskStore}
    (hsent : ∀ center, Does sent center () (after center)) :
    Does (deliver ctx (fun _ ↦ alone draws) action messageType payload sent) center ()
      (sendToPhone draws.now action (draws.envelope messageType ctx.ourDeviceId payload) center
        fun center ↦ MessageCenter.publishActionResult draws.now action true none none
          (after center)) := by
  let env := draws.envelope messageType ctx.ourDeviceId payload
  have hbuilt : Does (newEnvelope (fun _ ↦ alone draws) ctx messageType payload) center (.ok env)
      center := does_act draws center _
  apply hbuilt.bind
  apply (does_trySend draws center action.deviceId env).bind
  change Does _ _ _ (sendToPhone draws.now action env center _)
  unfold sendToPhone
  cases center.registry.trySend action.deviceId env with
  | error e => exact does_publishActionResult draws action center false _ _
  | ok registry => exact (hsent _).bind (does_publishActionResult draws action _ true none none)

/-- A statement that returns nothing but the database. -/
theorem does_write (query : Int64 → Db → Except DbError Db) :
    Does (do
        let _ ← statement (fun _ ↦ alone draws) fun now db ↦ (query now db).map fun db ↦ ((), db))
      center () (setDb (warned center.store.db (query draws.now center.store.db)) center) := by
  have hwritten := does_statement draws center fun now db ↦ (query now db).map fun db ↦ ((), db)
  have hsame : ((query draws.now center.store.db).map fun db ↦ ((), db)).map Prod.snd =
      query draws.now center.store.db := by
    cases query draws.now center.store.db <;> rfl
  rw [hsame] at hwritten
  exact hwritten.bind Computes.pure

theorem does_doSmsReply : Does (doSmsReply ctx (fun _ ↦ alone draws) action) center ()
    (MessageCenter.doSmsReply ctx draws action center) := by
  unfold doSmsReply MessageCenter.doSmsReply
  cases action.recipient.filter (· ≠ "") with
  | none => exact does_publishActionResult draws action center false _ _
  | some recipient =>
    cases action.body.filter (· ≠ "") with
    | none => exact does_publishActionResult draws action center false _ _
    | some body =>
      exact does_deliver ctx draws action center _ _ fun sent ↦ does_write draws sent fun now db ↦
        db.insertAuditLog now (some action.deviceId) "display.sms_reply" none

theorem does_doNotificationRead :
    Does (doNotificationRead statementMessage (fun _ ↦ alone draws) action) center ()
      (MessageCenter.doNotificationRead (fun e ↦ statementMessage (.constraint e)) draws action
        center) := by
  apply (does_statement draws center fun _ db ↦
    (db.markNotificationRead action.deviceId action.envelopeId.toText).map fun db ↦ ((), db)).bind
  unfold MessageCenter.doNotificationRead
  cases center.store.db.markNotificationRead action.deviceId action.envelopeId.toText with
  | error e => exact does_publishActionResult draws action center false _ _
  | ok db => exact does_publishActionResult draws action _ true none none

theorem does_doNotificationDismiss :
    Does (doNotificationDismiss ctx (fun _ ↦ alone draws) action) center ()
      (MessageCenter.doNotificationDismiss ctx draws action center) := by
  have hsent (sent : Center DeskStore) :
      Does (do let _ ← statement (fun _ ↦ alone draws) fun _ db ↦
        db.dismissNotification action.deviceId action.envelopeId.toText) sent ()
        (setDb (warned sent.store.db ((sent.store.db.dismissNotification action.deviceId
          action.envelopeId.toText).map Prod.snd)) sent) :=
    (does_statement draws sent fun _ db ↦
      db.dismissNotification action.deviceId action.envelopeId.toText).bind Computes.pure
  exact does_deliver ctx draws action center _ _ hsent

/-- The kinds of action that the center understands. -/
def actionKinds : List String :=
  ["sms.reply", "notification.read", "notification.dismiss", "call.answer", "call.end"]

theorem does_unknownKind (hconnected : center.registry.isConnected action.deviceId = true)
    (hkind : action.kind ∉ actionKinds) :
    Does (dispatch ctx statementMessage (fun _ ↦ alone draws) action) center ()
      (MessageCenter.handleDisplayAction ctx (fun e ↦ statementMessage (.constraint e)) draws action
        center) := by
  have hunknown : MessageCenter.handleDisplayAction ctx (fun e ↦ statementMessage (.constraint e))
      draws action center = MessageCenter.publishActionResult draws.now action false
        (some "bad_request") (some s!"unknown action kind: {action.kind}") center := by
    simp only [MessageCenter.handleDisplayAction, hconnected, not_true_eq_false, reduceIte]
    split
    next hreply => simp [hreply, actionKinds] at hkind
    next hread => simp [hread, actionKinds] at hkind
    next hdismiss => simp [hdismiss, actionKinds] at hkind
    next hanswer => simp [hanswer, actionKinds] at hkind
    next hend => simp [hend, actionKinds] at hkind
    next => rfl
  rw [hunknown]
  unfold dispatch
  split
  next hreply => simp [hreply, actionKinds] at hkind
  next hread => simp [hread, actionKinds] at hkind
  next hdismiss => simp [hdismiss, actionKinds] at hkind
  next hanswer => simp [hanswer, actionKinds] at hkind
  next hend => simp [hend, actionKinds] at hkind
  next => exact does_publishActionResult draws action center false _ _

/-- Alone, the task does what the handler of the center's model does. -/
theorem does_handleDisplayAction :
    Does (handleDisplayAction ctx statementMessage (fun _ ↦ alone draws) action) center ()
      (MessageCenter.handleDisplayAction ctx (fun e ↦ statementMessage (.constraint e)) draws action
        center) := by
  have hchecked : Does (isConnected (fun _ ↦ alone draws) action.deviceId) center
      (center.registry.isConnected action.deviceId) center := does_act draws center _
  apply hchecked.bind
  by_cases hconnected : center.registry.isConnected action.deviceId = true
  · by_cases hkind : action.kind ∈ actionKinds
    · unfold MessageCenter.handleDisplayAction dispatch
      simp only [hconnected, not_true_eq_false, reduceIte]
      simp only [actionKinds, List.mem_cons, List.not_mem_nil, or_false] at hkind
      rcases hkind with hreply | hread | hdismiss | hanswer | hend
      · simp only [hreply]
        exact does_doSmsReply ctx draws action center
      · simp only [hread]
        exact does_doNotificationRead statementMessage draws action center
      · simp only [hdismiss]
        exact does_doNotificationDismiss ctx draws action center
      · simp only [hanswer]
        exact does_deliver ctx draws action center _ _ fun _ ↦ Computes.pure
      · simp only [hend]
        exact does_deliver ctx draws action center _ _ fun _ ↦ Computes.pure
    · simp only [hconnected, not_true_eq_false, reduceIte]
      exact does_unknownKind ctx statementMessage draws action center hconnected hkind
  · unfold MessageCenter.handleDisplayAction
    simp only [hconnected]
    have hoffline : Does (publish (fun _ ↦ alone draws) (offlineEvent action)) center () _ :=
      does_act draws center _
    exact hoffline.bind (does_publishActionResult draws action _ false _ _)

end Alone

end DisplayTask

end PhoneBridge.MessageCenter
