import PhoneBridge.Library.Unwinding
import PhoneBridge.MessageCenter.DeviceStore

/-!
# Isolation of devices

A frame acts on the device that it names, on whichever connection it arrives; no connection is bound
to a device. What holds is the isolation of devices from frames that name others: a device's pairing
session, parked request, registry entry and rows depend on the frames that name it, as long as no
two devices claim one hardware id.
-/

namespace PhoneBridge.MessageCenter

open Library Proto Net Storage

/-! ## The sink and one device -/

/-- What a sink call does to the rows of the device it is about. -/
def onStore (stamp : Stamp) (call : SinkCall) (o : Tables.Owned) : Tables.Owned :=
  match call with
  | .onNotification _ deviceId env =>
    o.insertNotification (CenterSink.notificationRow deviceId env)
  | .onNotificationDismissed _ _ env => o.markNotificationRead env.id
  | .onSmsReceived _ deviceId env => o.insertSms (CenterSink.smsRow deviceId env)
  | .onSmsSendResult _ _ _ => o
  | .onCallState _ deviceId env => o.insertCall (CenterSink.callStateRow stamp deviceId env)
  | .onCallIncoming _ deviceId env => o.insertCall (CenterSink.callIncomingRow stamp deviceId env)
  | .onCallHistory _ deviceId env =>
    env.entries.foldl (fun o entry ↦ o.insertCall (CenterSink.callHistoryRow deviceId entry)) o
  | .onSmsListResult _ deviceId env =>
    env.messages.foldl (fun o message ↦ o.insertSms (CenterSink.smsRow deviceId message)) o
  | .onHello _ deviceId env =>
    ((o.upsert (CenterSink.helloRow stamp deviceId env)).touch (epochSeconds stamp.now)).audit {
      id := 0, timestamp := stamp.now, deviceId, event := "ws.connected", detail := none }
  | .onUnpair _ deviceId env =>
    (o.audit {
      id := 0, timestamp := stamp.now, deviceId, event := "device.unpair"
      detail := env.reason.getD "" }).remove
  | .onDisconnect deviceId =>
    (o.touch (epochSeconds stamp.now)).audit {
      id := 0, timestamp := stamp.now, deviceId, event := "ws.closed", detail := none }

/-- The hardware id that a sink call claims for its device. -/
def claimedHardware : SinkCall → Option String
  | .onHello _ _ env => env.hardwareId
  | _ => none

section Sink

variable (stamp : Stamp) (db : Db) {call : SinkCall} {other : Uuid}

/-- A sink call about another device leaves a device's rows alone, unless it claims the device's
hardware id. -/
theorem centerSink_owned (h : call.deviceId ≠ other)
    (hphone : ∀ row ∈ db.devices.rows, claimedHardware call ≠ none →
      claimedHardware call = row.hardwareId → row.deviceId ≠ other) :
    (centerSink stamp call db).owned other = db.owned other := by
  cases call with
  | onNotification _ deviceId env => exact owned_insertNotification db h
  | onNotificationDismissed _ deviceId env => exact owned_markNotificationRead db h
  | onSmsReceived _ deviceId env => exact owned_insertSms db h
  | onSmsSendResult _ deviceId env => rfl
  | onCallState _ deviceId env => exact owned_insertCall db h
  | onCallIncoming _ deviceId env => exact owned_insertCall db h
  | onCallHistory _ deviceId env =>
    exact Unwinding.view_foldl_of_ignored (fun db : Db ↦ db.owned other)
      (fun db entry ↦ owned_insertCall db h) db env.entries
  | onSmsListResult _ deviceId env =>
    exact Unwinding.view_foldl_of_ignored (fun db : Db ↦ db.owned other)
      (fun db message ↦ owned_insertSms db h) db env.messages
  | onHello _ deviceId env =>
    refine (owned_insertAuditLog _ h).trans ((owned_touchDevice _ h).trans
      (owned_upsertDevice db h fun row hrow hsame ↦ ?_))
    exact hphone row hrow hsame.1 hsame.2
  | onUnpair _ deviceId env =>
    exact (owned_removeDevice _ h).trans (owned_insertAuditLog db h)
  | onDisconnect deviceId => exact (owned_insertAuditLog _ h).trans (owned_touchDevice db h)

/-- A sink call about a device acts on the device's own rows, when nobody else has the hardware id
that it claims. -/
theorem centerSink_storeOf
    (hphone : ∀ row ∈ db.devices.rows, claimedHardware call ≠ none →
      claimedHardware call = row.hardwareId → row.deviceId = call.deviceId) :
    (centerSink stamp call db).storeOf call.deviceId =
      onStore stamp call (db.storeOf call.deviceId) := by
  cases call with
  | onNotification _ deviceId env => exact storeOf_insertNotification db rfl
  | onNotificationDismissed _ deviceId env => exact storeOf_markNotificationRead db
  | onSmsReceived _ deviceId env => exact storeOf_insertSms db rfl
  | onSmsSendResult _ deviceId env => rfl
  | onCallState _ deviceId env => exact storeOf_insertCall db rfl
  | onCallIncoming _ deviceId env => exact storeOf_insertCall db rfl
  | onCallHistory _ deviceId env =>
    refine (List.foldl_hom (fun db : Db ↦ db.storeOf deviceId) fun db entry ↦ ?_).symm
    exact Eq.symm (storeOf_insertCall db rfl)
  | onSmsListResult _ deviceId env =>
    refine (List.foldl_hom (fun db : Db ↦ db.storeOf deviceId) fun db message ↦ ?_).symm
    exact Eq.symm (storeOf_insertSms db rfl)
  | onHello _ deviceId env =>
    have hupsert : (warned db (db.upsertDevice (CenterSink.helloRow stamp deviceId env))).storeOf
        deviceId = _ :=
      storeOf_upsertDevice db rfl fun row hrow hsame ↦ hphone row hrow hsame.1 hsame.2
    simp only [centerSink, CenterSink.onHello, CenterSink.audit, CenterSink.touchDevice,
      SinkCall.deviceId, onStore]
    rw [storeOf_insertAuditLog, storeOf_touchDevice, hupsert]
  | onUnpair _ deviceId env =>
    simp only [centerSink, CenterSink.onUnpair, CenterSink.audit, SinkCall.deviceId, onStore]
    rw [storeOf_removeDevice, storeOf_insertAuditLog]
  | onDisconnect deviceId =>
    simp only [centerSink, CenterSink.onDisconnect, CenterSink.audit, CenterSink.touchDevice,
      SinkCall.deviceId, onStore]
    rw [storeOf_insertAuditLog, storeOf_touchDevice]

end Sink

/-! ## Who has which hardware id -/

section Claims

variable {P : Uuid → Option String → Prop} {t : Tables} {db : Db}

/-- Every device row meets a condition on its device id and its hardware id. -/
def Claims (P : Uuid → Option String → Prop) (t : Tables) : Prop :=
  ∀ row ∈ t.devices.rows, P row.deviceId row.hardwareId

theorem claims_warned (hdb : Claims P db.toTables) (ht : Claims P t) :
    Claims P (warned db t.commit).toTables :=
  warned_of_both (Claims P) hdb ht

theorem claims_insertCall {c : CallRow} (hdb : Claims P db.toTables) :
    Claims P (CenterSink.insertCall c db).toTables := by
  rw [insertCall_eq]
  exact claims_warned hdb hdb

theorem claims_insertAuditLog {timestamp : Int64} {deviceId : Option Uuid} {event : String}
    {detail : Option String} (hdb : Claims P db.toTables) :
    Claims P (warned db (db.insertAuditLog timestamp deviceId event detail)).toTables :=
  claims_warned hdb hdb

theorem claims_touchDevice {deviceId : Uuid} {lastSeen : Int64} (hdb : Claims P db.toTables) :
    Claims P (warned db (db.touchDevice deviceId lastSeen)).toTables := by
  refine claims_warned hdb fun row hrow ↦ ?_
  obtain ⟨old, hold, rfl⟩ := List.mem_map.mp hrow
  have hclaim := hdb old hold
  split <;> exact hclaim

theorem claims_removeDevice {deviceId : Uuid} (hdb : Claims P db.toTables) :
    Claims P (warned db (db.removeDevice deviceId)).toTables :=
  claims_warned hdb fun row hrow ↦ hdb row (List.mem_filter.mp hrow).1

theorem claims_upsertDevice {r : DeviceRow} (hdb : Claims P db.toTables)
    (hr : P r.deviceId r.hardwareId) : Claims P (warned db (db.upsertDevice r)).toTables := by
  have hreplaced : ∀ {t : Tables} {old : Option DeviceRow} {new : DeviceRow},
      Replaced db t old new → P new.deviceId new.hardwareId → Claims P t := by
    intro t old new hreplaced hnew row hrow
    rcases (hreplaced.mem row).mp hrow with rfl | ⟨hkept, -⟩
    · exact hnew
    · exact hdb row hkept
  unfold Db.upsertDevice
  split
  · next row hfound =>
    exact claims_warned hdb (hreplaced (replaced_refreshDevice (findHardware_eq_some hfound).1) hr)
  · refine claims_warned hdb ?_
    by_cases hknown : r.deviceId ∈ db.deviceIds
    · obtain ⟨row, hrow, hdevice⟩ := Tables.mem_deviceIds.mp hknown
      refine hreplaced (replaced_insertOrUpdate_known hrow hdevice) ?_
      have hclaim := hdb row hrow
      rw [hdevice] at hclaim
      cases hhardware : r.hardwareId with
      | none => simpa [DeviceRow.mergedWith, hdevice, hhardware] using hclaim
      | some hw => simpa [DeviceRow.mergedWith, hdevice, hhardware] using hr
    · exact hreplaced (replaced_insertOrUpdate_new hknown) hr

/-- The rows keep to a condition that every call of the sink keeps to. -/
theorem claims_centerSink (stamp : Stamp) {call : SinkCall} (hdb : Claims P db.toTables)
    (hcall : P call.deviceId (claimedHardware call)) :
    Claims P (centerSink stamp call db).toTables := by
  cases call with
  | onNotification | onSmsReceived => exact claims_warned hdb hdb
  | onNotificationDismissed => exact claims_warned hdb hdb
  | onSmsSendResult => exact hdb
  | onCallState | onCallIncoming => exact claims_insertCall hdb
  | onCallHistory _ deviceId env =>
    exact List.foldlRecOn (motive := fun db : Db ↦ Claims P db.toTables) env.entries _ hdb
      fun db hdb entry _ ↦ claims_insertCall hdb
  | onSmsListResult _ deviceId env =>
    exact List.foldlRecOn (motive := fun db : Db ↦ Claims P db.toTables) env.messages _ hdb
      fun db hdb message _ ↦ claims_warned hdb hdb
  | onHello _ deviceId env =>
    have hupserted : Claims P (warned db (db.upsertDevice
        (CenterSink.helloRow stamp deviceId env))).toTables := claims_upsertDevice hdb hcall
    exact claims_insertAuditLog (claims_touchDevice hupserted)
  | onUnpair _ deviceId env => exact claims_removeDevice (claims_insertAuditLog hdb)
  | onDisconnect deviceId => exact claims_insertAuditLog (claims_touchDevice hdb)

end Claims

/-! ## Frames -/

/-- A frame that a connection receives. -/
structure Input where
  conn : ConnId
  frame : Frame
  arrival : Arrival

/-- The shared state after a frame; a frame that cannot be read is skipped. -/
def receive (ctx : WsContext) (center : Center Db) (input : Input) : Center Db :=
  match input.frame.envelope with
  | some env => center.handleEnvelope ctx centerSink input.conn input.arrival env
  | none => center

/-- A turn of the frame loop of a live connection. -/
theorem center_frame (ctx : WsContext) (hub : Hub Db) (input : Input) :
    (hub.frame ctx centerSink input.conn input.frame input.arrival).map (·.center) =
      (hub.inPhase input.conn .serving).map fun _ ↦ receive ctx hub.center input := by
  rw [Hub.frame, Option.map_map]
  congr 1
  funext connection
  simp only [Function.comp_apply, receive]
  cases input.frame.envelope with
  | none => rfl
  | some env =>
    dsimp only
    split <;> rfl

/-- Everything that the center keeps about a device. -/
structure DeviceState where
  session : Option DeviceSession
  pending : Option PendingIncoming
  entry : Option ConnId
  rows : Tables.Owned

def stateOf (deviceId : Uuid) (center : Center Db) : DeviceState where
  session := center.sessions.pairing.get deviceId
  pending := center.sessions.pendingIncoming.get deviceId
  entry := center.registry.inner.get deviceId
  rows := center.store.owned deviceId

/-- The state without the numbers that the database has given the rows. -/
def DeviceState.unnumbered (state : DeviceState) : DeviceState :=
  { state with rows := state.rows.unnumbered }

/-- Does the frame name the device? -/
def names (deviceId : Uuid) (input : Input) : Bool :=
  input.frame.envelope.any (·.deviceId = deviceId)

/-- The hardware id that a frame claims for the device it names. -/
def Input.hardwareId (input : Input) : Option String :=
  (input.frame.envelope.bind sinkCall).bind claimedHardware

section Frames

variable {ctx : WsContext} {center : Center Db} {input : Input} {deviceId : Uuid}

/-- A frame that names another device leaves a device's state alone, unless it claims the device's
hardware id. -/
theorem stateOf_receive_other (hother : names deviceId input = false)
    (hphone : ∀ row ∈ center.store.devices.rows, input.hardwareId ≠ none →
      input.hardwareId = row.hardwareId → row.deviceId ≠ deviceId) :
    stateOf deviceId (receive ctx center input) = stateOf deviceId center := by
  cases henv : input.frame.envelope with
  | none => simp [receive, henv]
  | some env =>
    have hne : deviceId ≠ env.deviceId := by
      simpa [names, henv, eq_comm] using hother
    have hrows : (center.handleEnvelope ctx centerSink input.conn input.arrival env).store.owned
        deviceId = center.store.owned deviceId := by
      rw [Center.store_handleEnvelope]
      cases hcall : sinkCall env with
      | none => rfl
      | some call =>
        have hdevice := deviceId_of_sinkCall hcall
        refine centerSink_owned _ _ (by rw [hdevice]; exact hne.symm) fun row hrow ↦ ?_
        simpa [Input.hardwareId, henv, hcall] using hphone row hrow
    rw [receive, henv]
    simp only [stateOf, hrows, Center.sessions_handleEnvelope, Center.inner_handleEnvelope,
      dispatch_eq, KeyMap.get_set_of_ne _ _ hne]
    split
    · rw [KeyMap.get_insert_of_ne _ _ hne]
    · rfl

/-- What a frame does to the state of the device that it names. -/
def react (state : DeviceState) (input : Input) : DeviceState :=
  match input.frame.envelope with
  | none => state
  | some env => {
      session := DeviceSession.after input.arrival.dispatch env state.session
      pending := PendingIncoming.after input.arrival.dispatch env state.pending
      entry := if env.messageType = .deviceHello then some input.conn else state.entry
      rows :=
        match sinkCall env with
        | some call => onStore input.arrival.sink call state.rows
        | none => state.rows }

/-- A frame acts on the state of the device that it names, when nobody else has the hardware id
that it claims. -/
theorem stateOf_receive_own (hown : names deviceId input = true)
    (hphone : ∀ row ∈ center.store.devices.rows, input.hardwareId ≠ none →
      input.hardwareId = row.hardwareId → row.deviceId = deviceId) :
    (stateOf deviceId (receive ctx center input)).unnumbered =
      react (stateOf deviceId center).unnumbered input := by
  cases henv : input.frame.envelope with
  | none => simp [names, henv] at hown
  | some env =>
    obtain rfl : env.deviceId = deviceId := by simpa [names, henv] using hown
    have hrows : (center.handleEnvelope ctx centerSink input.conn input.arrival
        env).store.storeOf env.deviceId =
        match sinkCall env with
        | some call => onStore input.arrival.sink call (center.store.storeOf env.deviceId)
        | none => center.store.storeOf env.deviceId := by
      rw [Center.store_handleEnvelope]
      cases hcall : sinkCall env with
      | none => rfl
      | some call =>
        rw [← deviceId_of_sinkCall hcall]
        refine centerSink_storeOf _ _ fun row hrow ↦ ?_
        rw [deviceId_of_sinkCall hcall]
        simpa [Input.hardwareId, henv, hcall] using hphone row hrow
    rw [receive, henv]
    simp only [stateOf, DeviceState.unnumbered, react, henv, Center.sessions_handleEnvelope,
      Center.inner_handleEnvelope, dispatch_eq, KeyMap.get_set_self]
    simp only [Tables.storeOf] at hrows
    rw [hrows]
    split
    · rw [KeyMap.get_insert_self]
    · rfl

end Frames

/-! ## Two runs -/

/-- Exactly this device claims the hardware ids among `mine`. -/
def OwnHardware (deviceId : Uuid) (mine : String → Prop) (claimant : Uuid)
    (hardwareId : Option String) : Prop :=
  ∀ hw ∈ hardwareId, claimant = deviceId ↔ mine hw

/-- The frame keeps to the division of the hardware ids. -/
def KeepsHardware (deviceId : Uuid) (mine : String → Prop) (input : Input) : Prop :=
  ∀ env, input.frame.envelope = some env →
    OwnHardware deviceId mine env.deviceId input.hardwareId

theorem unwinds (ctx : WsContext) (deviceId : Uuid) (mine : String → Prop) :
    Unwinding.Unwinds (receive ctx) (names deviceId)
      (fun center ↦ (stateOf deviceId center).unnumbered) react (KeepsHardware deviceId mine)
      (fun center ↦ Claims (OwnHardware deviceId mine) center.store.toTables) where
  invariant center input hclaims hinput := by
    cases henv : input.frame.envelope with
    | none => simpa [receive, henv] using hclaims
    | some env =>
      rw [receive, henv]
      dsimp only
      rw [Center.store_handleEnvelope]
      cases hcall : sinkCall env with
      | none => exact hclaims
      | some call =>
        refine claims_centerSink _ hclaims ?_
        have hkeeps := hinput env henv
        rwa [Input.hardwareId, henv, Option.bind_some, hcall, Option.bind_some,
          ← deviceId_of_sinkCall hcall] at hkeeps
  ignores center input hclaims hinput hother := by
    refine congrArg DeviceState.unnumbered (stateOf_receive_other hother fun row hrow hsome heq ↦ ?_)
    obtain ⟨hw, hhw⟩ := Option.ne_none_iff_exists'.mp hsome
    obtain ⟨env, henv⟩ : ∃ env, input.frame.envelope = some env := by
      cases henv : input.frame.envelope with
      | none => simp [Input.hardwareId, henv] at hsome
      | some env => exact ⟨env, rfl⟩
    have hne : env.deviceId ≠ deviceId := by simpa [names, henv] using hother
    rw [Ne, (hclaims row hrow) hw (heq ▸ hhw)]
    exact fun hmine ↦ hne (((hinput env henv) hw hhw).mpr hmine)
  follows center input hclaims hinput hown := by
    refine stateOf_receive_own hown fun row hrow hsome heq ↦ ?_
    obtain ⟨hw, hhw⟩ := Option.ne_none_iff_exists'.mp hsome
    obtain ⟨env, henv, hdevice⟩ : ∃ env, input.frame.envelope = some env ∧
        env.deviceId = deviceId := by simpa [names, Option.any_eq_true] using hown
    rw [(hclaims row hrow) hw (heq ▸ hhw)]
    exact ((hinput env henv) hw hhw).mp hdevice

/-- Devices are isolated from frames that name others: such a frame leaves a device's state alone,
unless it claims the hardware id of the device's row, and two runs with the same frames that name
the device end in the same state of it, when no two devices claim one hardware id. -/
theorem devices_are_isolated (ctx : WsContext) (deviceId : Uuid) (center : Center Db) :
    (∀ input, names deviceId input = false →
      (∀ row ∈ center.store.devices.rows, input.hardwareId ≠ none →
        input.hardwareId = row.hardwareId → row.deviceId ≠ deviceId) →
      stateOf deviceId (receive ctx center input) = stateOf deviceId center) ∧
    ∀ (mine : String → Prop) (inputs others : List Input),
      Claims (OwnHardware deviceId mine) center.store.toTables →
      (∀ input ∈ inputs ++ others, KeepsHardware deviceId mine input) →
      inputs.filter (names deviceId) = others.filter (names deviceId) →
      (stateOf deviceId (inputs.foldl (receive ctx) center)).unnumbered =
        (stateOf deviceId (others.foldl (receive ctx) center)).unnumbered := by
  refine ⟨fun input ↦ stateOf_receive_other, fun mine inputs others hclaims hkeeps hsame ↦ ?_⟩
  rw [List.forall_mem_append] at hkeeps
  exact (unwinds ctx deviceId mine).view_eq hclaims hkeeps.1 hkeeps.2 hsame

/-! ## No connection is bound to a device -/

/-- The device id of the first hello among the frames of a connection. -/
def firstHello (inputs : List Input) : Option Uuid :=
  inputs.findSome? fun input ↦
    (input.frame.envelope.filter (·.messageType = .deviceHello)).map (·.deviceId)

/-- After these frames, the connection speaks for another device than the message names. -/
def Foreign (before : List Input) (env : Envelope) : Prop :=
  match firstHello before with
  | some deviceId => env.deviceId ≠ deviceId
  | none => env.messageType ≠ .deviceHello

/-- Foreign frames leave the device that they name alone. -/
def BoundToFirstHello (ctx : WsContext) (center : Center Db) (inputs : List Input) : Prop :=
  ∀ before input after, inputs = before ++ input :: after →
    ∀ env, input.frame.envelope = some env → Foreign before env →
      stateOf env.deviceId (receive ctx (before.foldl (receive ctx) center) input) =
        stateOf env.deviceId (before.foldl (receive ctx) center)

/-- Nothing is connected and nothing is stored. -/
def emptyCenter : Center Db where
  sessions := .empty
  registry := { inner := .empty, outboxes := fun _ ↦ .new }
  store := .empty

/-- A phone's hello. -/
def helloEnvelope (deviceId : Uuid) (hardwareId : String) : Envelope :=
  Envelope.new .nil 1000 .deviceHello deviceId (DeviceHello.toValue {
    name := "Pixel"
    deviceType := .android
    protocolVersion := 1
    pubkey := ""
    port := none
    manufacturer := none
    model := none
    hardwareId := some hardwareId })

/-- A phone's hello on connection 0. -/
def sampleHello (deviceId : Uuid) (hardwareId : String) : Input where
  conn := 0
  frame := .text (helloEnvelope deviceId hardwareId).toJson
  arrival := {
    sink := { now := 1000, freshId := .nil }
    dispatch := Net.sampleDraws }

theorem envelope_sampleHello (deviceId : Uuid) (hardwareId : String) :
    (sampleHello deviceId hardwareId).frame.envelope = some (helloEnvelope deviceId hardwareId) := by
  simp [sampleHello, Frame.envelope, Envelope.fromJson_toJson, Except.toOption]

theorem hardwareId_sampleHello (deviceId : Uuid) (hardwareId : String) :
    (sampleHello deviceId hardwareId).hardwareId = some hardwareId := by
  rw [Input.hardwareId, envelope_sampleHello]
  rfl

theorem names_sampleHello (deviceId other : Uuid) (hardwareId : String) :
    names other (sampleHello deviceId hardwareId) = decide (deviceId = other) := by
  simp [names, envelope_sampleHello, helloEnvelope, Envelope.new]

/-- A second hello of a connection registers another device for it. -/
theorem second_hello_is_not_bound : ¬ ∀ (center : Center Db) (inputs : List Input),
    BoundToFirstHello sampleContext center inputs := by
  intro h
  have hfirst : firstHello [sampleHello ⟨1⟩ "one"] = some ⟨1⟩ := by
    simp [firstHello, envelope_sampleHello, helloEnvelope, Envelope.new, Option.filter]
  have hforeign : Foreign [sampleHello ⟨1⟩ "one"] (helloEnvelope ⟨2⟩ "two") := by
    rw [Foreign, hfirst]
    decide
  have hbound := h emptyCenter [sampleHello ⟨1⟩ "one", sampleHello ⟨2⟩ "two"]
    [sampleHello ⟨1⟩ "one"] (sampleHello ⟨2⟩ "two") [] rfl _ (envelope_sampleHello ⟨2⟩ "two")
    hforeign
  have hentry := congrArg DeviceState.entry hbound
  simp [stateOf, receive, envelope_sampleHello, Center.inner_handleEnvelope, helloEnvelope,
    Envelope.new, emptyCenter] at hentry

/-- The hardware ids of two phones. -/
theorem keepsHardware_sampleHello {deviceId : Uuid} {hardwareId : String}
    (h : deviceId = ⟨2⟩ ↔ hardwareId = "two") :
    KeepsHardware ⟨2⟩ (· = "two") (sampleHello deviceId hardwareId) := by
  intro env henv hw hhw
  rw [hardwareId_sampleHello] at hhw
  rw [envelope_sampleHello] at henv
  cases hhw
  cases henv
  exact h

/-- The hello of the phone 1 leaves the phone 2 alone. -/
theorem other_hello_is_ignored :
    stateOf ⟨2⟩ (receive sampleContext emptyCenter (sampleHello ⟨1⟩ "one")) =
        stateOf ⟨2⟩ emptyCenter ∧
      (stateOf ⟨2⟩ ([sampleHello ⟨1⟩ "one", sampleHello ⟨2⟩ "two"].foldl (receive sampleContext)
        emptyCenter)).unnumbered =
      (stateOf ⟨2⟩ ([sampleHello ⟨2⟩ "two"].foldl (receive sampleContext)
        emptyCenter)).unnumbered := by
  have hisolated := devices_are_isolated sampleContext ⟨2⟩ emptyCenter
  refine ⟨hisolated.1 (sampleHello ⟨1⟩ "one") ?_ ?_, hisolated.2 (· = "two") _ _ ?_ ?_ ?_⟩
  · rw [names_sampleHello]
    decide
  · simp [emptyCenter, Db.empty]
  · simp [Claims, emptyCenter, Db.empty]
  · intro input hinput
    have hcases : input = sampleHello ⟨1⟩ "one" ∨ input = sampleHello ⟨2⟩ "two" := by
      simpa using hinput
    rcases hcases with rfl | rfl
    · exact keepsHardware_sampleHello (by decide)
    · exact keepsHardware_sampleHello (by decide)
  · simp [names_sampleHello]

end PhoneBridge.MessageCenter
