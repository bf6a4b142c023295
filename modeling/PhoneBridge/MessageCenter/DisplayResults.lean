import PhoneBridge.MessageCenter.DisplayTask

/-!
# One honest result for every action

Whatever other tasks do between its operations, whatever fails, and whatever the action is, the task
of an action publishes one `action.result`, after one `phone.offline` when it found the phone not
registered. It reports success only for what has been done, and after a failure nothing is on its way
to the phone.
-/

namespace PhoneBridge.MessageCenter

open Library Proto Net Storage

namespace DisplayTask

/-! ## What the effects say -/

/-- The registries that the task has looked at for the check. -/
def checksOf (effects : List DisplayEffect) : List DeviceRegistry :=
  effects.filterMap fun | .checked registry => some registry | _ => none

/-- The registries that the task has looked up a sender in. -/
def lookupsOf (effects : List DisplayEffect) : List DeviceRegistry :=
  effects.filterMap fun | .lookedUp registry => some registry | _ => none

/-- The envelopes that have been enqueued, with the channel's connection and the registry before and
after. -/
def enqueuedOf (effects : List DisplayEffect) :
    List (ConnId × Envelope × DeviceRegistry × DeviceRegistry) :=
  effects.filterMap fun 
    | .enqueued conn env before after => some (conn, env, before, after)
    | _ => none

/-- The database before and after each executed statement. -/
def updatesOf (effects : List DisplayEffect) : List (Db × Db) :=
  effects.filterMap fun | .updated before after => some (before, after) | _ => none

def publishedOf (effects : List DisplayEffect) : List DisplayEvent :=
  effects.filterMap fun | .published event => some event | _ => none

/-- The event is the `action.result` for the action. -/
structure Answers (action : DisplayAction) (ok : Bool) (event : DisplayEvent) : Prop where
  kind : event.kind = "action.result"
  deviceId : event.deviceId = action.deviceId
  envelopeId : event.envelopeId = action.envelopeId
  payload : ∃ message now, event.payload = ActionResultEvent.toValue {
    kind := "action.result"
    requestEnvelopeId := action.envelopeId
    deviceId := action.deviceId
    actionKind := action.kind
    ok
    message
    timestamp := now }

/-- The event tells that the action's phone is not connected. -/
structure TellsOffline (action : DisplayAction) (event : DisplayEvent) : Prop where
  kind : event.kind = "phone.offline"
  deviceId : event.deviceId = action.deviceId
  envelopeId : event.envelopeId = action.envelopeId

/-- Exactly the message that the action asks for has been queued, on the channel that was registered
for the device when its sender was looked up. -/
def Delivered (ctx : WsContext) (action : DisplayAction) (messageType : MessageType)
    (payload : Json) (effects : List DisplayEffect) : Prop :=
  ∃ conn env looked before, lookupsOf effects = [looked] ∧
    looked.inner.get action.deviceId = some conn ∧
    enqueuedOf effects = [(conn, env, before, before.send conn env)] ∧
    (before.outboxes conn).receiving = true ∧
    env.messageType = messageType ∧ env.payload = payload ∧ env.deviceId = ctx.ourDeviceId

/-- What the action asks for has been done. -/
def Performed (ctx : WsContext) (action : DisplayAction) (effects : List DisplayEffect) : Prop :=
  match actionRequest action with
  | some (messageType, payload) => Delivered ctx action messageType payload effects
  | none => action.kind = "notification.read" ∧ enqueuedOf effects = [] ∧
      ∃ before after, updatesOf effects = [(before, after)] ∧
        Desk.OnlyRead before.toTables after.toTables action.deviceId action.envelopeId.toText

section Operations

variable {α : Type} (script : Nat → DisplayMoment)

/-- Every run of the task adds effects that meet the postcondition. -/
abbrev Leaves (task : Task α) (post : α → List DisplayEffect → Prop) : Prop :=
  Emits DisplayWorld.trace task post

theorem leaves_act
    {operation : DisplayMoment → Center DeskStore → α × Center DeskStore × List DisplayEffect}
    {post : α → List DisplayEffect → Prop}
    (h : ∀ now center, post (operation now center).1 (operation now center).2.2) :
    Leaves (act script operation) post := fun _ ↦ ⟨_, rfl, h _ _⟩

theorem leaves_publish (event : Int64 → DisplayEvent) :
    Leaves (publish script event) fun _ effects ↦ ∃ now, effects = [.published (event now)] :=
  leaves_act script fun now _ ↦ ⟨now.now, rfl⟩

/-- Effects that are executed statements only. -/
def OnlyUpdates (effects : List DisplayEffect) : Prop :=
  ∃ updates : List (Db × Db), effects = updates.map fun update ↦ .updated update.1 update.2

theorem leaves_statement (query : Int64 → Db → Except DbError (α × Db)) :
    Leaves (statement script query) fun result effects ↦ OnlyUpdates effects ∧
      ∀ value, result = .ok value → ∃ now before after,
        query now before = .ok (value, after) ∧ effects = [.updated before after] := by
  apply leaves_act script
  intro now center
  cases hexecuted : execute now.outage (query now.now center.store.db) with
  | error e => exact ⟨⟨[], rfl⟩, fun _ h ↦ by cases h⟩
  | ok result =>
    refine ⟨⟨[(center.store.db, result.2)], rfl⟩, fun value hvalue ↦ ?_⟩
    cases hvalue
    refine ⟨now.now, center.store.db, result.2, ?_, rfl⟩
    unfold execute at hexecuted
    split at hexecuted
    · cases hexecuted
    · cases hquery : query now.now center.store.db with
      | error e =>
        rw [hquery] at hexecuted
        cases hexecuted
      | ok value =>
        rw [hquery] at hexecuted
        cases hexecuted
        rfl

theorem leaves_newEnvelope (ctx : WsContext) (messageType : MessageType) (payload : Json) :
    Leaves (newEnvelope script ctx messageType payload) fun built effects ↦ effects = [] ∧
      ∀ env, built = .ok env → env.messageType = messageType ∧ env.payload = payload ∧
        env.deviceId = ctx.ourDeviceId := by
  apply leaves_act script
  intro now center
  cases now.buildFailure with
  | some e => exact ⟨rfl, fun _ h ↦ by cases h⟩
  | none => exact ⟨rfl, fun _ h ↦ by cases h; exact ⟨rfl, rfl, rfl⟩⟩

theorem leaves_lookUp (deviceId : Uuid) :
    Leaves (lookUp script deviceId) fun found effects ↦ ∃ looked : DeviceRegistry,
      looked.inner.get deviceId = found ∧ effects = [.lookedUp looked] :=
  leaves_act script fun _ center ↦ ⟨center.registry, rfl, rfl⟩

theorem leaves_channelTrySend (conn : ConnId) (env : Envelope) :
    Leaves (channelTrySend script conn env) fun sent effects ↦
      match sent with
      | true => ∃ before : DeviceRegistry, (before.outboxes conn).receiving = true ∧
        effects = [.enqueued conn env before (before.send conn env)]
      | false => effects = [] := by
  apply leaves_act script
  intro now center
  unfold Outbox.trySend
  by_cases hroom : (center.registry.outboxes conn).receiving = true ∧
      (center.registry.outboxes conn).queue.length < Outbox.capacity
  · simp only [if_pos hroom]
    exact ⟨center.registry, hroom.1, rfl⟩
  · simp only [if_neg hroom]

/-- A send reports success exactly when it has enqueued the envelope, on the channel of the sender
that it has looked up. -/
theorem leaves_trySend (deviceId : Uuid) (env : Envelope) :
    Leaves (trySend script deviceId env) fun sent effects ↦ ∃ looked : DeviceRegistry,
      match sent with
      | .error _ => effects = [.lookedUp looked]
      | .ok () => ∃ conn before, looked.inner.get deviceId = some conn ∧
        (before.outboxes conn).receiving = true ∧
        effects = [.lookedUp looked, .enqueued conn env before (before.send conn env)] := by
  apply (leaves_lookUp script deviceId).bind
  rintro found _ ⟨looked, hfound, rfl⟩
  cases found with
  | none => exact Emits.pure ⟨looked, rfl⟩
  | some conn =>
    apply (leaves_channelTrySend script conn env).bind
    intro sent effects hsent
    cases sent with
    | false =>
      rw [hsent]
      exact Emits.pure ⟨looked, rfl⟩
    | true =>
      obtain ⟨before, hreceiving, rfl⟩ := hsent
      exact Emits.pure ⟨looked, conn, before, hfound, hreceiving, rfl⟩

end Operations

/-! ## The handlers -/

/-- What is left to do once the phone has been found registered: one result, which says what has been
done. -/
def Settled (ctx : WsContext) (action : DisplayAction) (effects : List DisplayEffect) : Prop :=
  checksOf effects = [] ∧ ∃ ok result, publishedOf effects = [result] ∧ Answers action ok result ∧
    (ok = true → Performed ctx action effects) ∧ (ok = false → enqueuedOf effects = [])

section Handlers

variable (ctx : WsContext) (statementMessage : StatementError → String)
  (script : Nat → DisplayMoment) (action : DisplayAction)

theorem answers_resultEvent (ok : Bool) (code message : Option String) (now : Int64) :
    Answers action ok (resultEvent action ok code message now) where
  kind := rfl
  deviceId := rfl
  envelopeId := rfl
  payload := ⟨_, now, rfl⟩

theorem leaves_publishActionResult (ok : Bool) (code message : Option String) :
    Leaves (publishActionResult script action ok code message) fun _ effects ↦
      ∃ result, effects = [.published result] ∧ Answers action ok result :=
  (leaves_publish script _).mono fun _ _ ⟨now, heffects⟩ ↦
    ⟨_, heffects, answers_resultEvent action ok code message now⟩

/-- A failure is settled when nothing has been enqueued on the way to it. -/
theorem settled_failure (code message : Option String) {first : List DisplayEffect}
    (hchecks : checksOf first = []) (hpublished : publishedOf first = [])
    (henqueued : enqueuedOf first = []) :
    Leaves (publishActionResult script action false code message) fun _ effects ↦
      Settled ctx action (first ++ effects) := by
  apply (leaves_publishActionResult script action false code message).mono
  rintro _ _ ⟨result, rfl, hanswers⟩
  refine ⟨?_, false, result, ?_, hanswers, by simp, fun _ ↦ ?_⟩
  · simpa [checksOf] using hchecks
  · simpa [publishedOf] using hpublished
  · simpa [enqueuedOf] using henqueued

/-- A failure before anything has been done is settled. -/
theorem settled_refusal (code message : Option String) :
    Leaves (publishActionResult script action false code message) fun _ effects ↦
      Settled ctx action effects :=
  settled_failure ctx script action code message (rfl : checksOf [] = []) rfl rfl

/-- A success is settled when what was asked for has been done on the way to it. -/
theorem settled_success {first : List DisplayEffect} (hchecks : checksOf first = [])
    (hpublished : publishedOf first = [])
    (hperformed : ∀ result, Performed ctx action (first ++ [.published result])) :
    Leaves (publishActionResult script action true none none) fun _ effects ↦
      Settled ctx action (first ++ effects) := by
  apply (leaves_publishActionResult script action true none none).mono
  rintro _ _ ⟨result, rfl, hanswers⟩
  refine ⟨?_, true, result, ?_, hanswers, fun _ ↦ hperformed result, by simp⟩
  · simpa [checksOf] using hchecks
  · simpa [publishedOf] using hpublished

/-- The delivery of the message that the action asks for. -/
theorem settled_deliver {messageType : MessageType} {payload : Json} {sent : Task Unit}
    (hrequest : actionRequest action = some (messageType, payload))
    (hsent : Leaves sent fun _ effects ↦ OnlyUpdates effects) :
    Leaves (deliver ctx script action messageType payload sent) fun _ effects ↦
      Settled ctx action effects := by
  apply (leaves_newEnvelope script ctx messageType payload).bind
  rintro built _ ⟨rfl, hbuilt⟩
  cases built with
  | error e => exact settled_refusal ctx script action _ _
  | ok env =>
    obtain ⟨htype, hpayload, hdevice⟩ := hbuilt env rfl
    apply (leaves_trySend script action.deviceId env).bind
    rintro sent effects ⟨looked, htried⟩
    cases sent with
    | error e =>
      rw [htried]
      exact settled_failure ctx script action _ _ rfl rfl rfl
    | ok =>
      obtain ⟨conn, before, hconn, hreceiving, rfl⟩ := htried
      apply hsent.bind
      rintro _ _ ⟨updates, rfl⟩
      let first : List DisplayEffect :=
        [.lookedUp looked, .enqueued conn env before (before.send conn env)] ++
          updates.map fun update ↦ .updated update.1 update.2
      have hsettled : Leaves (publishActionResult script action true none none) fun _ effects ↦
          Settled ctx action (first ++ effects) := by
        apply settled_success ctx script action
        · simp [first, checksOf]
        · simp [first, publishedOf]
        · intro result
          rw [Performed, hrequest]
          refine ⟨conn, env, looked, before, ?_, hconn, ?_, hreceiving, htype, hpayload, hdevice⟩
          · simp [first, lookupsOf]
          · simp [first, enqueuedOf]
      apply hsettled.mono
      intro _ effects h
      simpa only [first, List.append_assoc, List.nil_append] using h

theorem settled_doSmsReply (hkind : action.kind = "sms.reply") :
    Leaves (doSmsReply ctx script action) fun _ effects ↦ Settled ctx action effects := by
  unfold doSmsReply
  cases hrecipient : action.recipient.filter (· ≠ "") with
  | none => exact settled_refusal ctx script action _ _
  | some recipient =>
    cases hbody : action.body.filter (· ≠ "") with
    | none => exact settled_refusal ctx script action _ _
    | some body =>
      apply settled_deliver ctx script action
      · simp only [actionRequest, hkind]
        rw [hrecipient, hbody]
        rfl
      · apply (leaves_statement script _).bind
        rintro _ effects ⟨hupdates, -⟩
        apply Emits.pure
        rwa [List.append_nil]

theorem settled_doNotificationDismiss (hkind : action.kind = "notification.dismiss") :
    Leaves (doNotificationDismiss ctx script action) fun _ effects ↦
      Settled ctx action effects := by
  apply settled_deliver ctx script action
  · simp [actionRequest, hkind]
  · apply (leaves_statement script _).bind
    rintro _ effects ⟨hupdates, -⟩
    apply Emits.pure
    rwa [List.append_nil]

/-- Marking as read is settled without a message: the result says whether the update succeeded. -/
theorem settled_doNotificationRead (hkind : action.kind = "notification.read") :
    Leaves (doNotificationRead statementMessage script action) fun _ effects ↦
      Settled ctx action effects := by
  apply (leaves_statement script _).bind
  rintro marked effects ⟨⟨updates, hupdates⟩, hmarked⟩
  cases marked with
  | error e =>
    apply settled_failure ctx script action
    all_goals simp [hupdates, checksOf, publishedOf, enqueuedOf]
  | ok =>
    obtain ⟨now, before, after, hquery, rfl⟩ := hmarked () rfl
    apply settled_success ctx script action
    · rfl
    · rfl
    intro result
    have hrequest : actionRequest action = none := by simp [actionRequest, hkind]
    rw [Performed, hrequest]
    refine ⟨hkind, rfl, before, after, rfl, ?_⟩
    obtain ⟨read, hread, honly⟩ := Desk.markNotificationRead_eq before action.deviceId
      action.envelopeId.toText
    rw [hread] at hquery
    cases hquery
    exact honly

/-- Every action that finds the phone registered is settled. -/
theorem settled_dispatch : Leaves (dispatch ctx statementMessage script action) fun _ effects ↦
    Settled ctx action effects := by
  have hnothing : Leaves (pure () : Task Unit) fun _ effects ↦ OnlyUpdates effects :=
    Emits.pure ⟨[], rfl⟩
  unfold dispatch
  split
  next hkind => exact settled_doSmsReply ctx script action hkind
  next hkind => exact settled_doNotificationRead ctx statementMessage script action hkind
  next hkind => exact settled_doNotificationDismiss ctx script action hkind
  next hkind => exact settled_deliver ctx script action (by simp [actionRequest, hkind]) hnothing
  next hkind => exact settled_deliver ctx script action (by simp [actionRequest, hkind]) hnothing
  next => exact settled_refusal ctx script action _ _

theorem leaves_isConnected (deviceId : Uuid) :
    Leaves (isConnected script deviceId) fun connected effects ↦ ∃ registry : DeviceRegistry,
      registry.isConnected deviceId = connected ∧ effects = [.checked registry] :=
  leaves_act script fun _ center ↦ ⟨center.registry, rfl, rfl⟩

theorem leaves_publishPhoneOffline :
    Leaves (publishPhoneOffline script action) fun _ effects ↦ ∃ offline result,
      effects = [.published offline, .published result] ∧ TellsOffline action offline ∧
        Answers action false result := by
  apply (leaves_publish script (offlineEvent action)).bind
  rintro _ _ ⟨now, rfl⟩
  apply (leaves_publishActionResult script action false _ _).mono
  rintro _ _ ⟨result, rfl, hanswers⟩
  exact ⟨offlineEvent action now, result, rfl, ⟨rfl, rfl, rfl⟩, hanswers⟩

end Handlers

end DisplayTask

end PhoneBridge.MessageCenter
