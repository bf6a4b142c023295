import PhoneBridge.Library.Run
import PhoneBridge.MessageCenter.DeviceStore
import PhoneBridge.MessageCenter.DisplayWs

/-!
# Actions and the notifications they are offered for

The sink stores a notification under the id that the phone gave it and shows it under the id of its
envelope. An action carries the envelope id, and the message-center looks for a row with that id and
sends that id to the phone. The action reaches its notification when the two ids are the same text.
-/

namespace PhoneBridge.MessageCenter

open Library Proto Net Storage

/-- A connection handler's step, an action of a display, or any other handler, which may change
everything but what has been published. -/
inductive DeskLabel
  | connection (label : HubLabel)
  | action (draws : Draws) (action : DisplayAction)
  | elsewhere (sessions : Sessions) (registry : DeviceRegistry) (db : Db)

namespace Desk

def step (ctx : WsContext) (dbMessage : DbError → String) (hub : Hub DeskStore) :
    DeskLabel → Option (Hub DeskStore)
  | .connection label => hub.step ctx displaySink label
  | .action draws action =>
    some { hub with center := handleDisplayAction ctx dbMessage draws action hub.center }
  | .elsewhere sessions registry db =>
    some { hub with center := { sessions, registry, store := { hub.center.store with db } } }

/-- The sink has processed a call. -/
def processed (hub : Hub DeskStore) (stamp : Stamp) (call : SinkCall) : Hub DeskStore :=
  { hub with center := { hub.center with store := displaySink stamp call hub.center.store } }

/-- The user marks as read, or dismisses, what the event shows. -/
structure ActsOn (action : DisplayAction) (event : DisplayEvent) : Prop where
  kind : action.kind = "notification.read" ∨ action.kind = "notification.dismiss"
  envelopeId : action.envelopeId = event.envelopeId
  deviceId : action.deviceId = event.deviceId

/-- The device's notification with this id has become read, and nothing else has changed. -/
structure OnlyRead (before after : Tables) (deviceId : Uuid) (id : String) : Prop where
  rows : after.notifications.rows = before.notifications.rows.map fun row ↦
    if row.deviceId = deviceId ∧ row.id = id then { row with read := true } else row
  others : { after with notifications := before.notifications } = before

/-- The phone is sent a dismissal of the notification that it knows under this id. -/
def DismissalSent (before after : DeviceRegistry) (deviceId : Uuid) (id : String) : Prop :=
  ∃ conn env, before.inner.get deviceId = some conn ∧
    (after.outboxes conn).queue = (before.outboxes conn).queue ++ [env] ∧
    env.messageType = .notificationDismissed ∧ NotificationDismissed.parse env.payload = .ok { id }

/-- An action on the event, taken with the phone connected, reaches the device's notification. -/
def Reaches (ctx : WsContext) (dbMessage : DbError → String) (event : DisplayEvent)
    (deviceId : Uuid) (notification : NotificationReceived) (hub : Hub DeskStore) :
    DeskLabel → Prop
  | .action draws action =>
    ActsOn action event → hub.center.registry.isConnected action.deviceId = true →
      let after := handleDisplayAction ctx dbMessage draws action hub.center
      OnlyRead hub.center.store.db.toTables after.store.db.toTables deviceId notification.id ∧
      (action.kind = "notification.dismiss" →
        DismissalSent hub.center.registry after.registry deviceId notification.id)
  | _ => True

/-- No notification of the device with this id is unread. -/
def NothingUnread (t : Tables) (deviceId : Uuid) (id : String) : Prop :=
  ∀ row ∈ t.notifications.rows, row.deviceId = deviceId ∧ row.id = id → row.read = true

/-- The phone's channel takes one more message. -/
def HasRoom (registry : DeviceRegistry) (deviceId : Uuid) : Prop :=
  ∃ conn, registry.inner.get deviceId = some conn ∧ (registry.outboxes conn).receiving = true ∧
    (registry.outboxes conn).queue.length < Outbox.capacity

/-- The envelope id is the text that the phone uses as the notification's id. A dismissal also
needs room in the phone's channel; marking as read does nothing wrong when nothing is unread. -/
def IdsAgree (event : DisplayEvent) (envelopeId deviceId : Uuid)
    (notification : NotificationReceived) (hub : Hub DeskStore) : DeskLabel → Prop
  | .action _ action =>
    ActsOn action event → hub.center.registry.isConnected action.deviceId = true →
      (action.kind = "notification.dismiss" → envelopeId.toText = notification.id ∧
        HasRoom hub.center.registry deviceId) ∧
      (action.kind = "notification.read" → envelopeId.toText = notification.id ∨
        NothingUnread hub.center.store.db.toTables deviceId notification.id ∧
        NothingUnread hub.center.store.db.toTables deviceId envelopeId.toText)
  | _ => True

/-! ## What the two actions do -/

/-- The statement marks the row with the given id. -/
theorem markNotificationRead_eq (db : Db) (deviceId : Uuid) (id : String) :
    ∃ after, db.markNotificationRead deviceId id = .ok after ∧
      OnlyRead db.toTables after.toTables deviceId id := by
  obtain ⟨after, hafter⟩ :=
    Tables.commit_succeeds.mpr (constraints_markNotificationRead db deviceId id)
  have htables := Tables.commit_eq_ok.mp hafter
  refine ⟨after, hafter, ?_, ?_⟩
  · rw [htables]
    simp
  · rw [htables]

/-- Marking one row is marking another one only when there is nothing to mark. -/
theorem onlyRead_iff {before after : Tables} {deviceId : Uuid} {marked id : String}
    (h : OnlyRead before after deviceId marked) :
    OnlyRead before after deviceId id ↔
      marked = id ∨ NothingUnread before deviceId id ∧ NothingUnread before deviceId marked := by
  have hread : ∀ {row : NotificationRow}, row.read = true → { row with read := true } = row := by
    intro row hrow
    rw [← hrow]
  have hrows : OnlyRead before after deviceId id ↔ ∀ row ∈ before.notifications.rows,
      (if row.deviceId = deviceId ∧ row.id = marked then { row with read := true } else row) =
        if row.deviceId = deviceId ∧ row.id = id then { row with read := true } else row := by
    rw [← List.map_inj_left, ← h.rows]
    exact ⟨fun hid ↦ hid.rows, fun hid ↦ ⟨hid, h.others⟩⟩
  rw [hrows]
  by_cases hsame : marked = id
  · simp [hsame]
  · simp only [hsame, false_or]
    constructor
    · intro hall
      constructor
      · intro row hrow hmeets
        have heq := hall row hrow
        rw [if_pos hmeets, if_neg fun hmarked ↦ hsame (hmarked.2.symm.trans hmeets.2)] at heq
        rw [heq]
      · intro row hrow hmeets
        have heq := hall row hrow
        rw [if_pos hmeets, if_neg fun hid ↦ hsame (hmeets.2.symm.trans hid.2)] at heq
        rw [← heq]
    · rintro ⟨hid, hmarked⟩ row hrow
      by_cases h₁ : row.deviceId = deviceId ∧ row.id = marked
      · rw [if_pos h₁, hread (hmarked row hrow h₁)]
        split <;> rfl
      · rw [if_neg h₁]
        by_cases h₂ : row.deviceId = deviceId ∧ row.id = id
        · rw [if_pos h₂, hread (hid row hrow h₂)]
        · rw [if_neg h₂]

@[simp]
theorem db_publishActionResult (now : Int64) (action : DisplayAction) (ok : Bool)
    (code message : Option String) (center : Center DeskStore) :
    (publishActionResult now action ok code message center).store.db = center.store.db := rfl

@[simp]
theorem registry_publishActionResult (now : Int64) (action : DisplayAction) (ok : Bool)
    (code message : Option String) (center : Center DeskStore) :
    (publishActionResult now action ok code message center).registry = center.registry := rfl

section Actions

variable (ctx : WsContext) (dbMessage : DbError → String) (draws : Draws) {action : DisplayAction}
  {center : Center DeskStore}

/-- Marking as read changes the row whose id is the envelope id. -/
theorem onlyRead_of_read (hconnected : center.registry.isConnected action.deviceId = true)
    (hkind : action.kind = "notification.read") :
    OnlyRead center.store.db.toTables
      (handleDisplayAction ctx dbMessage draws action center).store.db.toTables action.deviceId
      action.envelopeId.toText := by
  obtain ⟨after, hafter, honly⟩ := markNotificationRead_eq center.store.db action.deviceId
    action.envelopeId.toText
  simp only [handleDisplayAction, hconnected, hkind, not_true_eq_false, reduceIte,
    doNotificationRead, hafter, db_publishActionResult]
  exact honly

/-- A dismissal that finds room in the phone's channel. -/
theorem handle_dismiss (hconnected : center.registry.isConnected action.deviceId = true)
    (hkind : action.kind = "notification.dismiss")
    (hroom : HasRoom center.registry action.deviceId) :
    OnlyRead center.store.db.toTables
        (handleDisplayAction ctx dbMessage draws action center).store.db.toTables action.deviceId
        action.envelopeId.toText ∧
      ∃ conn env, center.registry.inner.get action.deviceId = some conn ∧
        (center.registry.outboxes conn).receiving = true ∧
        (handleDisplayAction ctx dbMessage draws action center).registry =
          center.registry.send conn env ∧
        env.messageType = .notificationDismissed ∧
        env.payload = NotificationDismissed.toValue { id := action.envelopeId.toText } := by
  obtain ⟨conn, hentry, hreceiving, hlength⟩ := hroom
  obtain ⟨after, hafter, honly⟩ := markNotificationRead_eq center.store.db action.deviceId
    action.envelopeId.toText
  have hsent := fun env ↦ DeviceRegistry.trySend_eq_ok.mpr
    ⟨conn, hentry, hreceiving, hlength, Eq.refl (center.registry.send conn env)⟩
  simp only [handleDisplayAction, hconnected, hkind, not_true_eq_false, reduceIte,
    doNotificationDismiss, sendToPhone, hsent, Db.dismissNotification, hafter, warned, bind,
    Except.bind, pure, Except.pure, Except.map, Except.toOption, Option.getD_some,
    db_publishActionResult, registry_publishActionResult]
  exact ⟨honly, conn, _, hentry, hreceiving, rfl, rfl, rfl⟩

/-- A dismissal that finds no room sends nothing. -/
theorem registry_of_no_room (hconnected : center.registry.isConnected action.deviceId = true)
    (hkind : action.kind = "notification.dismiss")
    (hroom : ¬ HasRoom center.registry action.deviceId) :
    (handleDisplayAction ctx dbMessage draws action center).registry = center.registry := by
  simp only [handleDisplayAction, hconnected, hkind, not_true_eq_false, reduceIte,
    doNotificationDismiss, sendToPhone]
  split
  · rfl
  next registry hsent =>
    obtain ⟨conn, hentry, hreceiving, hlength, -⟩ := DeviceRegistry.trySend_eq_ok.mp hsent
    exact absurd ⟨conn, hentry, hreceiving, hlength⟩ hroom

/-- The dismissal names the notification by the envelope id. -/
theorem dismissalSent_iff (hconnected : center.registry.isConnected action.deviceId = true)
    (hkind : action.kind = "notification.dismiss") (id : String) :
    DismissalSent center.registry
        (handleDisplayAction ctx dbMessage draws action center).registry action.deviceId id ↔
      action.envelopeId.toText = id ∧ HasRoom center.registry action.deviceId := by
  by_cases hroom : HasRoom center.registry action.deviceId
  · obtain ⟨-, conn, env, hentry, hreceiving, hsent, htype, hpayload⟩ :=
      handle_dismiss ctx dbMessage draws hconnected hkind hroom
    have hqueue : ((center.registry.send conn env).outboxes conn).queue =
        (center.registry.outboxes conn).queue ++ [env] := by
      simp [DeviceRegistry.send, DeviceRegistry.setOutbox, Outbox.send, hreceiving]
    rw [hsent]
    constructor
    · rintro ⟨other, sent, hother, hlater, -, hparse⟩
      obtain rfl : conn = other := Option.some.inj (hentry.symm.trans hother)
      have hsame : env = sent := by
        have heq := hqueue.symm.trans hlater
        simpa using heq
      rw [← hsame, hpayload, NotificationDismissed.parse_toValue] at hparse
      exact ⟨congrArg NotificationDismissed.id (Except.ok.inj hparse), hroom⟩
    · rintro ⟨rfl, -⟩
      exact ⟨conn, env, hentry, hqueue, htype,
        by rw [hpayload, NotificationDismissed.parse_toValue]⟩
  · rw [registry_of_no_room ctx dbMessage draws hconnected hkind hroom]
    constructor
    · rintro ⟨conn, env, -, hqueue, -⟩
      simp at hqueue
    · exact fun h ↦ absurd h.2 hroom

end Actions

/-! ## Any later action -/

section Later

variable {stamp : Stamp} {envelopeId deviceId : Uuid} {notification : NotificationReceived}
  {event : DisplayEvent}

/-- One step reaches the notification exactly when the ids agree. -/
theorem reaches_iff_idsAgree
    (hevent : publishDisplay stamp (.onNotification envelopeId deviceId notification) = some event)
    (ctx : WsContext) (dbMessage : DbError → String) (hub : Hub DeskStore) (label : DeskLabel) :
    Reaches ctx dbMessage event deviceId notification hub label ↔
      IdsAgree event envelopeId deviceId notification hub label := by
  cases label with
  | connection label => exact Iff.rfl
  | elsewhere sessions registry db => exact Iff.rfl
  | action draws action =>
    apply forall_congr'
    intro hacts
    apply forall_congr'
    intro hconnected
    obtain ⟨henvelope, hdevice⟩ := ids_of_publishDisplay hevent
    have henvelopeId : action.envelopeId = envelopeId := hacts.envelopeId.trans henvelope
    have hdeviceId : action.deviceId = deviceId := hacts.deviceId.trans hdevice
    subst henvelopeId hdeviceId
    rcases hacts.kind with hread | hdismiss
    · have honly := onlyRead_of_read ctx dbMessage draws hconnected hread
      simp only [hread, String.reduceEq, false_implies, and_true, true_and, true_implies]
      exact onlyRead_iff honly
    · simp only [hdismiss, String.reduceEq, false_implies, and_true, true_implies]
      rw [dismissalSent_iff ctx dbMessage draws hconnected hdismiss]
      constructor
      · exact fun hreached ↦ hreached.2
      · rintro ⟨hids, hroom⟩
        have honly := (handle_dismiss ctx dbMessage draws hconnected hdismiss hroom).1
        exact ⟨(onlyRead_iff honly).mpr (.inl hids), hids, hroom⟩

/-- Whatever was stored before and whatever happens afterwards: every later action on the event of a
notification reaches it exactly when the ids agree at the action. -/
theorem desk_actions_reach_iff (ctx : WsContext) (dbMessage : DbError → String)
    (hub : Hub DeskStore)
    (hevent : publishDisplay stamp (.onNotification envelopeId deviceId notification) = some event)
    (labels : List DeskLabel) :
    Run.Throughout (step ctx dbMessage) (Reaches ctx dbMessage event deviceId notification)
        (processed hub stamp (.onNotification envelopeId deviceId notification)) labels ↔
      Run.Throughout (step ctx dbMessage) (IdsAgree event envelopeId deviceId notification)
        (processed hub stamp (.onNotification envelopeId deviceId notification)) labels := by
  apply Run.throughout_congr fun _ ↦ True
  · exact fun _ _ _ _ _ ↦ trivial
  · exact fun later label _ ↦ reaches_iff_idsAgree hevent ctx dbMessage later label
  · trivial

/-- The notification of a known device has just been stored, unread. -/
theorem notification_stored (hub : Hub DeskStore)
    (hknown : deviceId ∈ hub.center.store.db.deviceIds) :
    CenterSink.notificationRow deviceId notification ∈
      (processed hub stamp (.onNotification envelopeId deviceId notification)
        ).center.store.db.notifications.rows := by
  have htables : (CenterSink.onNotification deviceId hub.center.store.db notification).toTables =
      _ := toTables_insertNotification hub.center.store.db
        (CenterSink.notificationRow deviceId notification)
  rw [if_pos (show (CenterSink.notificationRow deviceId notification).deviceId ∈ _ from hknown)]
    at htables
  change _ ∈ (CenterSink.onNotification deviceId hub.center.store.db
    notification).notifications.rows
  rw [htables]
  simp

/-- While the phone's id of a notification is not its envelope id, an action on its event taken at
once misses it. -/
theorem other_id_is_missed (ctx : WsContext) (dbMessage : DbError → String) (draws : Draws)
    {hub : Hub DeskStore} {action : DisplayAction}
    (hevent : publishDisplay stamp (.onNotification envelopeId deviceId notification) = some event)
    (hknown : deviceId ∈ hub.center.store.db.deviceIds) (hacts : ActsOn action event)
    (hconnected : hub.center.registry.isConnected action.deviceId = true)
    (hids : envelopeId.toText ≠ notification.id) :
    ¬ Reaches ctx dbMessage event deviceId notification
      (processed hub stamp (.onNotification envelopeId deviceId notification))
      (.action draws action) := by
  rw [reaches_iff_idsAgree hevent]
  intro hagree
  obtain ⟨hdismiss, hread⟩ := hagree hacts hconnected
  rcases hacts.kind with hkind | hkind
  · rcases hread hkind with hsame | ⟨hnothing, -⟩
    · exact hids hsame
    · exact Bool.false_ne_true (hnothing _ (notification_stored hub hknown) ⟨rfl, rfl⟩)
  · exact hids (hdismiss hkind).1

end Later

/-- A phone that has said hello, connected as the device 1. -/
def sampleDesk : Hub DeskStore where
  center := {
    sessions := .empty
    registry := { inner := KeyMap.empty.insert ⟨1⟩ 0, outboxes := fun _ ↦ .new }
    store := {
      db := CenterSink.onHello { now := 1000, freshId := .nil } ⟨1⟩ Db.empty {
        name := "phone"
        deviceType := .android
        protocolVersion := 1
        pubkey := ""
        port := none
        manufacturer := none
        model := none
        hardwareId := none }
      displayBus := [] } }
  connections := .empty

/-- A message that the phone knows under the given id. -/
def sampleNotification (id : String) : NotificationReceived where
  id
  package := "org.example.chat"
  appName := none
  title := "Ann"
  content := "Hello"
  postedAt := 1000
  isSensitive := false
  category := none

/-- What the displays are shown of it. -/
def sampleShown (id : String) : DisplayEvent where
  kind := "notification.received"
  deviceId := ⟨1⟩
  envelopeId := .nil
  timestamp := 1000
  payload := (sampleNotification id).toValue
  summary := .null

theorem publish_sample (id : String) : publishDisplay { now := 1000, freshId := .nil }
    (.onNotification .nil ⟨1⟩ (sampleNotification id)) = some (sampleShown id) := by
  have hpackage : (sampleNotification id).toValue.get "package" = some (.str "org.example.chat") :=
    rfl
  have hcategory : (sampleNotification id).toValue.get "category" = none := rfl
  have hpasses : shouldFilter (sampleShown id) = none := by
    simp [shouldFilter, noiseFilters, notificationField, sampleShown, hpackage, hcategory,
      Json.asStr, ownPackages, systemNoisePackages]
  have hshown : publishDisplay { now := 1000, freshId := .nil }
      (.onNotification .nil ⟨1⟩ (sampleNotification id)) =
      if (shouldFilter (sampleShown id)).isSome then none else some (sampleShown id) := rfl
  rw [hshown, hpasses]
  rfl

/-- The user marks it as read. -/
def sampleAction : DisplayAction where
  kind := "notification.read"
  envelopeId := .nil
  deviceId := ⟨1⟩
  recipient := none
  body := none

theorem sample_actsOn (id : String) : ActsOn sampleAction (sampleShown id) where
  kind := .inl rfl
  envelopeId := rfl
  deviceId := rfl

/-- A phone whose id is the envelope id. -/
theorem sample_action_reaches : Run.Throughout (step sampleContext fun _ ↦ "")
    (Reaches sampleContext (fun _ ↦ "") (sampleShown Uuid.nil.toText) ⟨1⟩
      (sampleNotification Uuid.nil.toText))
    (processed sampleDesk { now := 1000, freshId := .nil }
      (.onNotification .nil ⟨1⟩ (sampleNotification Uuid.nil.toText)))
    [.action sampleDraws sampleAction] := by
  apply (desk_actions_reach_iff sampleContext (fun _ ↦ "") sampleDesk (publish_sample _) _).mpr
  refine ⟨fun _ _ ↦ ⟨fun hkind ↦ ?_, fun _ ↦ .inl rfl⟩, fun _ _ ↦ trivial⟩
  simp [sampleAction] at hkind

/-- An Android notification key is no envelope id: the action marks nothing. -/
theorem notification_key_is_missed : ¬ ∀ (ctx : WsContext) (dbMessage : DbError → String)
    (hub : Hub DeskStore) (stamp : Stamp) (envelopeId deviceId : Uuid)
    (notification : NotificationReceived) (event : DisplayEvent),
    publishDisplay stamp (.onNotification envelopeId deviceId notification) = some event →
    ∀ labels, Run.Throughout (step ctx dbMessage)
      (Reaches ctx dbMessage event deviceId notification)
      (processed hub stamp (.onNotification envelopeId deviceId notification)) labels := by
  intro h
  have hreaches := h sampleContext (fun _ ↦ "") sampleDesk { now := 1000, freshId := .nil } .nil ⟨1⟩
    (sampleNotification "0|org.example.chat|7|null|10123") _ (publish_sample _)
    [.action sampleDraws sampleAction]
  apply other_id_is_missed sampleContext (fun _ ↦ "") sampleDraws (publish_sample _) ?_
    (sample_actsOn _) ?_ ?_ hreaches.1
  · decide
  · rfl
  · decide

end Desk

end PhoneBridge.MessageCenter
