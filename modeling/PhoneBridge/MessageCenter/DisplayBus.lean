import PhoneBridge.MessageCenter.CenterSink
import PhoneBridge.Proto.Display

/-!
# What the displays are shown

`noise_filter.rs`, `display_bus.rs` and the display half of `center_sink.rs`: the sink publishes an
event for most calls, after it has written to the database.
-/

namespace PhoneBridge.MessageCenter

open Library Proto Net Storage

/-! ## The noise filter -/

def ownPackages : List String := ["im.zyx.phonebridge", "im.zyx.phonebridge.debug"]

def systemNoisePackages : List String :=
  ["com.android.systemui", "com.android.shell", "com.android.providers.downloads", "android"]

def transientCategories : List String := ["progress", "service", "transport", "status"]

/-- Is a string field of a notification's payload in the list? -/
def notificationField (event : DisplayEvent) (key : String) (values : List String) : Bool :=
  event.kind = "notification.received" && ((event.payload.get key).bind Json.asStr).any (· ∈ values)

/-- Hardcoded deny predicates. -/
def noiseFilters : List (String × (DisplayEvent → Bool)) := [
  ("is_heartbeat", fun e ↦ e.kind = "device.heartbeat"),
  ("is_pair_internal", fun e ↦ "device.pair.".toList <+: e.kind.toList),
  ("is_info_update", fun e ↦ e.kind = "device.info.update"),
  ("is_unpair", fun e ↦ e.kind = "device.unpair"),
  ("is_own_pkg", fun e ↦ notificationField e "package" ownPackages),
  ("is_sys_noise", fun e ↦ notificationField e "package" systemNoisePackages),
  ("is_transient_cat", fun e ↦ notificationField e "category" transientCategories)]

/-- The name of the first matching deny predicate. -/
def shouldFilter (event : DisplayEvent) : Option String :=
  (noiseFilters.find? fun predicate ↦ predicate.2 event).map Prod.fst

/-! ## The events of the sink -/

/-- The kind, the envelope id and the payload that the sink shows of a call. -/
def shown : SinkCall → Option (MessageType × Uuid × Json)
  | .onNotification envelopeId _ env => some (.notificationReceived, envelopeId, env.toValue)
  | .onNotificationDismissed envelopeId _ env =>
    some (.notificationDismissed, envelopeId, env.toValue)
  | .onSmsReceived envelopeId _ env => some (.smsReceived, envelopeId, env.toValue)
  | .onSmsSendResult envelopeId _ env => some (.smsSendResult, envelopeId, env.toValue)
  | .onCallState envelopeId _ env => some (.callState, envelopeId, env.toValue)
  | .onCallIncoming envelopeId _ env => some (.callIncoming, envelopeId, env.toValue)
  | .onSmsListResult envelopeId _ env => some (.smsListResult, envelopeId, env.toValue)
  | .onHello envelopeId _ env => some (.deviceHello, envelopeId, env.toValue)
  | .onCallHistory .. | .onUnpair .. | .onDisconnect _ => none

/-- The event that the sink publishes for a call, unless it is noise. -/
def publishDisplay (stamp : Stamp) (call : SinkCall) : Option DisplayEvent :=
  (shown call).bind fun (kind, envelopeId, payload) ↦
    let event : DisplayEvent := {
      kind := kind.asStr
      deviceId := call.deviceId
      envelopeId
      timestamp := stamp.now
      payload
      summary := .null }
    if (shouldFilter event).isSome then none else some event

/-- The database with what has been published on the display bus, oldest first. -/
structure DeskStore where
  db : Db
  displayBus : List DisplayEvent

/-- The sink with both of its effects. -/
def displaySink : WsSink DeskStore := fun stamp call store ↦ {
  db := centerSink stamp call store.db
  displayBus := store.displayBus ++ (publishDisplay stamp call).toList }

/-- An event carries the ids of the call that it is published for. -/
theorem ids_of_publishDisplay {stamp : Stamp} {envelopeId deviceId : Uuid}
    {env : NotificationReceived} {event : DisplayEvent}
    (h : publishDisplay stamp (.onNotification envelopeId deviceId env) = some event) :
    event.envelopeId = envelopeId ∧ event.deviceId = deviceId := by
  simp only [publishDisplay, shown, Option.bind_some] at h
  split at h
  · cases h
  · cases h
    exact ⟨rfl, rfl⟩

end PhoneBridge.MessageCenter
