import PhoneBridge.MessageCenter.DisplayBus

/-!
# The two live feeds

`console_bus.rs` and the console half of `center_sink.rs`. The displays are given the id of the
envelope that arrived. For the console the handlers build an envelope anew around the payload, and
its id is drawn.
-/

namespace PhoneBridge.MessageCenter

open Library Proto Net Storage

/-- One event published to the console. -/
structure ConsoleEvent where
  kind : String
  deviceId : Uuid
  envelopeId : Uuid
  timestamp : Int64
  summary : Json

/-- The summary fields of an envelope; those of a payload that cannot be read are left out. -/
def ConsoleEvent.summaryOf (env : Envelope) : List (String × Json) :=
  match env.messageType with
  | .notificationReceived =>
    match env.parsePayload NotificationReceived.parse with
    | .ok n => [("package", .str n.package), ("title", .str n.title),
        ("app_name", (n.appName.map .str).getD .null)]
    | .error _ => []
  | .smsReceived =>
    match env.parsePayload SmsReceived.parse with
    | .ok s => [("address", .str s.address), ("body", .str s.body)]
    | .error _ => []
  | .callIncoming | .callState => [("raw", env.payload)]
  | .deviceHello =>
    match env.parsePayload DeviceHello.parse with
    | .ok h => [("name", .str h.name)]
    | .error _ => []
  | _ => []

/-- Build an event from an envelope, extracting a tiny summary. -/
def ConsoleEvent.fromEnvelope (env : Envelope) : ConsoleEvent where
  kind := env.messageType.asStr
  deviceId := env.deviceId
  envelopeId := env.id
  timestamp := env.ts
  summary := .obj (summaryOf env)

/-- The envelope that the handler of a call builds anew for the console. -/
def rebuilt (stamp : Stamp) : SinkCall → Option Envelope
  | .onNotification _ deviceId env =>
    some (.new stamp.freshId stamp.now .notificationReceived deviceId env.toValue)
  | .onNotificationDismissed _ deviceId env =>
    some (.new stamp.freshId stamp.now .notificationDismissed deviceId env.toValue)
  | .onSmsReceived _ deviceId env =>
    some (.new stamp.freshId stamp.now .smsReceived deviceId env.toValue)
  | .onSmsSendResult _ deviceId env =>
    some (.new stamp.freshId stamp.now .smsSendResult deviceId env.toValue)
  | .onCallState _ deviceId env =>
    some (.new stamp.freshId stamp.now .callState deviceId env.toValue)
  | .onCallIncoming _ deviceId env =>
    some (.new stamp.freshId stamp.now .callIncoming deviceId env.toValue)
  | .onHello _ deviceId env =>
    some (.new stamp.freshId stamp.now .deviceHello deviceId env.toValue)
  | .onCallHistory .. | .onSmsListResult .. | .onUnpair .. | .onDisconnect _ => none

/-- The event that the sink publishes for the console. -/
def publishConsole (stamp : Stamp) (call : SinkCall) : Option ConsoleEvent :=
  (rebuilt stamp call).map .fromEnvelope

/-- The database with what has been published on both buses, oldest first. -/
structure LiveStore extends DeskStore where
  consoleBus : List ConsoleEvent

/-- The sink with all of its effects. -/
def liveSink : WsSink LiveStore := fun stamp call store ↦ {
  toDeskStore := displaySink stamp call store.toDeskStore
  consoleBus := store.consoleBus ++ (publishConsole stamp call).toList }

/-! ## What the feeds say about an envelope -/

/-- The message types that the console is told of. -/
def consoleTypes : List MessageType :=
  [.notificationReceived, .notificationDismissed, .smsReceived, .smsSendResult, .callState,
    .callIncoming, .deviceHello]

/-- The events of both feeds carry the ids of the envelope that they are published for. -/
structure Correlated (env : Envelope) (console : List ConsoleEvent)
    (display : List DisplayEvent) : Prop where
  console : ∀ event ∈ console, event.envelopeId = env.id ∧ event.deviceId = env.deviceId
  display : ∀ event ∈ display, event.envelopeId = env.id ∧ event.deviceId = env.deviceId

/-- The events that the sink publishes while an envelope is handled. -/
def consoleOf (stamp : Stamp) (env : Envelope) : List ConsoleEvent :=
  ((sinkCall env).bind (publishConsole stamp)).toList

def displayOf (stamp : Stamp) (env : Envelope) : List DisplayEvent :=
  ((sinkCall env).bind (publishDisplay stamp)).toList

/-- What the frame loop adds to the two buses. -/
theorem buses_handled (center : Center LiveStore) (ctx : WsContext) (conn : ConnId)
    (arrival : Arrival) (env : Envelope) :
    let after := (center.handleEnvelope ctx liveSink conn arrival env).store
    after.consoleBus = center.store.consoleBus ++ consoleOf arrival.sink env ∧
      after.displayBus = center.store.displayBus ++ displayOf arrival.sink env := by
  simp only [Center.store_handleEnvelope, consoleOf, displayOf]
  cases sinkCall env with
  | none => exact ⟨(List.append_nil _).symm, (List.append_nil _).symm⟩
  | some call => exact ⟨rfl, rfl⟩

section Events

variable (stamp : Stamp) {env : Envelope} {call : SinkCall}

/-- The call for an envelope names its id wherever it is shown. -/
theorem shown_of_sinkCall (hcall : sinkCall env = some call) {kind : MessageType} {id : Uuid}
    {payload : Json} (hshown : shown call = some (kind, id, payload)) : id = env.id := by
  unfold sinkCall at hcall
  split at hcall
  all_goals
    first
    | cases hcall
    | obtain ⟨value, -, rfl⟩ := Option.map_eq_some_iff.mp hcall
      cases hshown <;> rfl

/-- Every event on the display bus carries the ids of its envelope. -/
theorem ids_of_displayOf : ∀ event ∈ displayOf stamp env,
    event.envelopeId = env.id ∧ event.deviceId = env.deviceId := by
  intro event hevent
  obtain ⟨call, hcall, hpublished⟩ := Option.bind_eq_some_iff.mp (Option.mem_toList.mp hevent)
  obtain ⟨⟨kind, id, payload⟩, hshown, hkept⟩ := Option.bind_eq_some_iff.mp hpublished
  have hid : id = env.id := shown_of_sinkCall hcall hshown
  have hdevice : call.deviceId = env.deviceId := deviceId_of_sinkCall hcall
  obtain ⟨-, hbuilt⟩ := Option.ite_none_left_eq_some.mp hkept
  cases hbuilt
  exact ⟨hid, hdevice⟩

/-- The console's event carries the drawn id and the device of the envelope. -/
theorem ids_of_publishConsole {event : ConsoleEvent}
    (hevent : publishConsole stamp call = some event) :
    event.envelopeId = stamp.freshId ∧ event.deviceId = call.deviceId := by
  obtain ⟨fresh, hfresh, rfl⟩ := Option.map_eq_some_iff.mp hevent
  cases call <;> cases hfresh <;> exact ⟨rfl, rfl⟩

/-- The console is told of an envelope exactly when it is one of its types and can be read. -/
theorem publishConsole_isSome (hcall : sinkCall env = some call) :
    (publishConsole stamp call).isSome ↔ env.messageType ∈ consoleTypes := by
  unfold sinkCall at hcall
  split at hcall
  all_goals
    first
    | cases hcall
    | next htype =>
      obtain ⟨value, -, rfl⟩ := Option.map_eq_some_iff.mp hcall
      simp [publishConsole, rebuilt, consoleTypes, htype]

/-- A message of a type that the console is told of, with a payload that can be read. -/
def ToldToConsole (env : Envelope) : Prop :=
  env.messageType ∈ consoleTypes ∧ (sinkCall env).isSome

/-- The console's events carry the ids of the envelope exactly when there is none of them, or the
drawn id is the id of the envelope. -/
theorem ids_of_consoleOf_iff (env : Envelope) :
    (∀ event ∈ consoleOf stamp env,
      event.envelopeId = env.id ∧ event.deviceId = env.deviceId) ↔
      (ToldToConsole env → stamp.freshId = env.id) := by
  unfold consoleOf ToldToConsole
  cases hcall : sinkCall env with
  | none => simp
  | some call =>
    have htold := publishConsole_isSome stamp hcall
    have hdevice : call.deviceId = env.deviceId := deviceId_of_sinkCall hcall
    cases hevent : publishConsole stamp call with
    | none =>
      have huntold : env.messageType ∉ consoleTypes := by simpa [hevent] using htold
      simp [hevent, huntold]
    | some event =>
      have hids := ids_of_publishConsole stamp hevent
      have htype : env.messageType ∈ consoleTypes := by simpa [hevent] using htold
      simp [hevent, hids, hdevice, htype]

end Events

/-- What is published on the two feeds while an envelope is handled carries its ids. -/
def FeedsCorrelate (center : Center LiveStore) (ctx : WsContext) (conn : ConnId)
    (arrival : Arrival) (env : Envelope) : Prop :=
  let after := (center.handleEnvelope ctx liveSink conn arrival env).store
  ∃ console display, after.consoleBus = center.store.consoleBus ++ console ∧
    after.displayBus = center.store.displayBus ++ display ∧ Correlated env console display

theorem feedsCorrelate_iff_correlated (center : Center LiveStore) (ctx : WsContext)
    (conn : ConnId) (arrival : Arrival) (env : Envelope) :
    FeedsCorrelate center ctx conn arrival env ↔
      Correlated env (consoleOf arrival.sink env) (displayOf arrival.sink env) := by
  obtain ⟨hconsole, hdisplay⟩ := buses_handled center ctx conn arrival env
  constructor
  · rintro ⟨console, display, hconsole', hdisplay', hcorrelated⟩
    rw [hconsole] at hconsole'
    rw [hdisplay] at hdisplay'
    rwa [List.append_cancel_left hconsole', List.append_cancel_left hdisplay']
  · intro hcorrelated
    exact ⟨_, _, hconsole, hdisplay, hcorrelated⟩

/-- Whatever is published on the two feeds while an envelope is handled carries its ids exactly
when the console is not told of it, or the id drawn for the console happens to be its id. -/
theorem live_feeds_correlate_iff (center : Center LiveStore) (ctx : WsContext) (conn : ConnId)
    (arrival : Arrival) (env : Envelope) :
    FeedsCorrelate center ctx conn arrival env ↔
      (ToldToConsole env → arrival.sink.freshId = env.id) := by
  rw [feedsCorrelate_iff_correlated, ← ids_of_consoleOf_iff]
  constructor
  · intro hcorrelated
    exact hcorrelated.console
  · intro hconsole
    exact ⟨hconsole, ids_of_displayOf arrival.sink⟩

/-- A dismissal with the id 7. The console is given the id that was drawn, here 9. -/
theorem console_event_has_a_new_id : ¬ ∀ (center : Center LiveStore) (ctx : WsContext)
    (conn : ConnId) (arrival : Arrival) (env : Envelope),
    FeedsCorrelate center ctx conn arrival env := by
  intro h
  let stamp : Stamp := { now := 1000, freshId := ⟨9⟩ }
  let env : Envelope :=
    .new ⟨7⟩ 900 .notificationDismissed ⟨1⟩ (NotificationDismissed.toValue { id := "n" })
  let center : Center LiveStore := {
    sessions := .empty
    registry := { inner := .empty, outboxes := fun _ ↦ .new }
    store := { db := .empty, displayBus := [], consoleBus := [] } }
  have hcorrelated := (feedsCorrelate_iff_correlated _ _ _ _ _).mp
    (h center sampleContext 0 { sink := stamp, dispatch := sampleDraws } env)
  have hpublished : consoleOf stamp env =
      [.fromEnvelope (.new ⟨9⟩ 1000 .notificationDismissed ⟨1⟩ env.payload)] := rfl
  have hids := hcorrelated.console _ (hpublished ▸ List.mem_singleton_self _)
  exact absurd hids.1 (by decide)

end PhoneBridge.MessageCenter
