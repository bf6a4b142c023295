import PhoneBridge.Library.Run
import PhoneBridge.MessageCenter.AppState
import PhoneBridge.MessageCenter.DeviceIsolation

/-!
# Unpairing a device

A device is unpaired by its own `device.unpair` or by `DELETE /api/v1/devices/{id}`. The first takes
away the rows of the device and nothing else; the second also takes away its session, its registry
entry and its pin, and leaves a parked request. The audit log is the record of both and outlives the
device.
-/

namespace PhoneBridge.Storage

open Library

namespace Tables

/-- The tables without the audit log. -/
def unlogged (t : Tables) : Tables := { t with auditLog := .empty }

variable {t : Tables} {deviceId : Uuid}

/-- Deleting an unknown device changes nothing, when every child row has its parent. -/
theorem deleteDevice_of_unknown (hforeign : t.ForeignKeys) (h : deviceId ∉ t.deviceIds) :
    t.deleteDevice deviceId = t := by
  have hunused : ∀ id ∈ t.references, id ≠ deviceId := by
    intro id hid heq
    exact h (heq ▸ hforeign id hid)
  simp only [references, List.mem_append, List.mem_map] at hunused
  have hdevices : t.devices.delete (·.deviceId = deviceId) = t.devices := by
    apply NumberedTable.delete_of_not
    intro row hrow
    simpa using fun heq : row.deviceId = deviceId ↦ h (mem_deviceIds.mpr ⟨row, hrow, heq⟩)
  have hpairings : t.pairings.delete (·.deviceId = deviceId) = t.pairings := by
    apply NumberedTable.delete_of_not
    intro row hrow
    simpa using hunused row.deviceId (.inl (.inl (.inl (.inl ⟨row, hrow, rfl⟩))))
  have hsessions : t.sessions.delete (·.deviceId = deviceId) = t.sessions := by
    apply NumberedTable.delete_of_not
    intro row hrow
    simpa using hunused row.deviceId (.inl (.inl (.inl (.inr ⟨row, hrow, rfl⟩))))
  have hnotifications : t.notifications.delete (·.deviceId = deviceId) = t.notifications := by
    apply KeyedTable.delete_of_not
    intro row hrow
    simpa using hunused row.deviceId (.inl (.inl (.inr ⟨row, hrow, rfl⟩)))
  have hsms : t.smsMessages.delete (·.deviceId = deviceId) = t.smsMessages := by
    apply KeyedTable.delete_of_not
    intro row hrow
    simpa using hunused row.deviceId (.inl (.inr ⟨row, hrow, rfl⟩))
  have hcalls : t.calls.delete (·.deviceId = deviceId) = t.calls := by
    apply NumberedTable.delete_of_not
    intro row hrow
    simpa using hunused row.deviceId (.inr ⟨row, hrow, rfl⟩)
  rw [deleteDevice, hdevices, hpairings, hsessions, hnotifications, hsms, hcalls]

/-- No table but the audit log has a row of the device. -/
def Unlisted (t : Tables) (deviceId : Uuid) : Prop :=
  (t.owned deviceId).remove = t.owned deviceId

/-- A database lists a device exactly when its `devices` table does. -/
theorem unlisted_iff (hforeign : t.ForeignKeys) :
    t.Unlisted deviceId ↔ deviceId ∉ t.deviceIds := by
  constructor
  · intro h
    have hdevices := congrArg Owned.devices h
    simp only [Owned.remove, owned] at hdevices
    rw [deviceIds, List.mem_map]
    rintro ⟨row, hrow, hdevice⟩
    exact absurd hdevice (by simpa using List.filter_eq_nil_iff.mp hdevices.symm row hrow)
  · intro h
    rw [Unlisted, ← deleteDevice_of_unknown hforeign h]
    simp [deleteDevice, owned, Owned.remove, List.filter_filter]

end Tables

end PhoneBridge.Storage

namespace PhoneBridge.MessageCenter

open Library Proto Net Storage

namespace AppState

/-- Nothing is left of the device: no session, parked request, registry entry, pin or row. -/
structure Forgotten (s : AppState) (deviceId : Uuid) : Prop where
  session : s.hub.center.sessions.pairing.get deviceId = none
  pending : s.hub.center.sessions.pendingIncoming.get deviceId = none
  entry : s.hub.center.registry.inner.get deviceId = none
  pin : s.pinStore.get deviceId = none
  rows : s.hub.center.store.Unlisted deviceId

/-- Two states that differ at most in the audit log. -/
structure SameButLog (s t : AppState) : Prop where
  sessions : s.hub.center.sessions = t.hub.center.sessions
  registry : s.hub.center.registry = t.hub.center.registry
  connections : s.hub.connections = t.hub.connections
  pins : s.pinStore = t.pinStore
  tables : s.hub.center.store.unlogged = t.hub.center.store.unlogged

/-- The step handles an envelope with which a device unpairs itself. -/
def HandlesUnpair (s : AppState) (label : ServerLabel) (env : Envelope) : Prop :=
  env.messageType = .deviceUnpair ∧
    match label with
    | .connection (.frame conn frame _) =>
      s.hub.inPhase conn .serving ≠ none ∧ frame.envelope = some env
    | _ => False

/-- What is promised of the two ways to unpair a device: nothing is left of it, and the device's own
message leaves what the REST call would leave. -/
def Forgets (ctx : WsContext) (dbMessage : DbError → String) (s : AppState) (label : ServerLabel) :
    Prop :=
  (∀ env, s.HandlesUnpair label env → ∀ next, s.step ctx dbMessage label = some next →
    next.Forgotten env.deviceId ∧
      ∀ now, next.SameButLog (s.removeDevice dbMessage now env.deviceId).2) ∧
  ∀ now deviceId, label = .removeDevice now deviceId →
    (s.removeDevice dbMessage now deviceId).1.status = 204 →
      (s.removeDevice dbMessage now deviceId).2.Forgotten deviceId

/-- When the promise is kept: a device that unpairs itself has no session, parked request, registry
entry or pin, and either its message can be read or no row is stored for it; a removed device has no
parked request. -/
def Unencumbered (s : AppState) (label : ServerLabel) : Prop :=
  (∀ env, s.HandlesUnpair label env →
    s.hub.center.sessions.pairing.get env.deviceId = none ∧
      s.hub.center.sessions.pendingIncoming.get env.deviceId = none ∧
      s.hub.center.registry.inner.get env.deviceId = none ∧
      s.pinStore.get env.deviceId = none ∧
      ((Unpair.parse env.payload).isOk = true ∨
        env.deviceId ∉ s.hub.center.store.deviceIds)) ∧
  ∀ now deviceId, label = .removeDevice now deviceId →
    s.hub.center.sessions.pendingIncoming.get deviceId = none

/-! ## What the two ways leave -/

section Effects

variable (s : AppState) (ctx : WsContext) (dbMessage : DbError → String)

/-- `DELETE /api/v1/devices/{id}` succeeds, and what it leaves. -/
theorem removeDevice_succeeds (now : Int64) (deviceId : Uuid) :
    s.removeDevice dbMessage now deviceId = ({ status := 204, text := "" },
      let audited := warned s.hub.center.store
        (s.hub.center.store.insertAuditLog now (some deviceId) "device.unpair" none)
      { s.withCenter {
          sessions := { s.hub.center.sessions with
            pairing := s.hub.center.sessions.pairing.remove deviceId }
          registry := s.hub.center.registry.unregister deviceId
          store := warned audited (audited.removeDevice deviceId) } with
        pinStore := s.pinStore.remove deviceId }) := by
  obtain ⟨store, hstore⟩ := Tables.commit_succeeds.mpr (constraints_deleteDevice (warned
    s.hub.center.store (s.hub.center.store.insertAuditLog now (some deviceId) "device.unpair" none))
    deviceId)
  have hremoved : (warned s.hub.center.store (s.hub.center.store.insertAuditLog now
      (some deviceId) "device.unpair" none)).removeDevice deviceId = .ok store := hstore
  simp only [AppState.removeDevice, hremoved]
  rfl

/-- The tables that a logged removal leaves. -/
theorem toTables_removal (db : Db) (now : Int64) (deviceId : Uuid) (detail : Option String) :
    let audited := warned db (db.insertAuditLog now (some deviceId) "device.unpair" detail)
    (warned audited (audited.removeDevice deviceId)).toTables = { db.deleteDevice deviceId with
      auditLog := db.auditLog.insert (fun id ↦ {
        id, timestamp := now, deviceId, event := "device.unpair", detail }) fun _ ↦ rfl } := by
  intro audited
  have haudited := toTables_insertAuditLog db now (some deviceId) "device.unpair" detail
  have hremoved : (warned audited (audited.removeDevice deviceId)).toTables =
      audited.deleteDevice deviceId := warned_commit (constraints_deleteDevice audited deviceId)
  rw [hremoved, Tables.deleteDevice, haudited]
  rfl

theorem unlisted_removal (db : Db) (now : Int64) (deviceId : Uuid) (detail : Option String) :
    let audited := warned db (db.insertAuditLog now (some deviceId) "device.unpair" detail)
    (warned audited (audited.removeDevice deviceId)).Unlisted deviceId := by
  intro audited
  rw [toTables_removal]
  simp [Tables.Unlisted, Tables.deleteDevice, Tables.owned, Tables.Owned.remove,
    List.filter_filter]

theorem unlogged_removal (db : Db) (now : Int64) (deviceId : Uuid) (detail : Option String) :
    let audited := warned db (db.insertAuditLog now (some deviceId) "device.unpair" detail)
    (warned audited (audited.removeDevice deviceId)).unlogged =
      (db.deleteDevice deviceId).unlogged := by
  intro audited
  rw [toTables_removal]
  rfl

/-- The removal of a device leaves nothing of it, if no request of it is parked. -/
theorem forgotten_removeDevice {now : Int64} {deviceId : Uuid} :
    (s.removeDevice dbMessage now deviceId).2.Forgotten deviceId ↔
      s.hub.center.sessions.pendingIncoming.get deviceId = none := by
  rw [removeDevice_succeeds]
  constructor
  · exact fun h ↦ h.pending
  · intro hpending
    exact {
      session := KeyMap.get_remove_self _ _
      pending := hpending
      entry := KeyMap.get_remove_self _ _
      pin := KeyMap.get_remove_self _ _
      rows := unlisted_removal .. }

/-- The state after a message with which a device unpairs itself. -/
theorem step_unpair {label : ServerLabel} {env : Envelope} (h : s.HandlesUnpair label env) :
    ∃ stamp, s.step ctx dbMessage label =
      some (s.withCenter (s.hub.center.persist centerSink stamp env)) := by
  obtain ⟨htype, hlabel⟩ := h
  cases label with
  | connection label =>
    cases label with
    | frame conn frame arrival =>
      obtain ⟨hserving, henv⟩ := hlabel
      obtain ⟨connection, hconnection⟩ := Option.ne_none_iff_exists'.mp hserving
      have hhandled : s.hub.center.handleEnvelope ctx centerSink conn arrival env =
          s.hub.center.persist centerSink arrival.sink env := by
        simp [Center.handleEnvelope, Center.registerHello, Center.dispatchReply, dispatch, htype]
      refine ⟨arrival.sink, ?_⟩
      simp [AppState.step, Hub.step, Hub.frame, hconnection, henv, htype, hhandled, withCenter]
    | _ => exact hlabel.elim
  | _ => exact hlabel.elim

/-- The rows that such a message leaves: those of the removal, if it can be read. -/
theorem store_persist_unpair {center : Center Db} {stamp : Stamp} {env : Envelope}
    (htype : env.messageType = .deviceUnpair) :
    (center.persist centerSink stamp env).store =
      match Unpair.parse env.payload with
      | .ok unpair => CenterSink.onUnpair stamp env.deviceId center.store unpair
      | .error _ => center.store := by
  have hcall : sinkCall env =
      (Unpair.parse env.payload).toOption.map (.onUnpair env.id env.deviceId) := by
    simp [sinkCall, htype, Envelope.parsePayload_eq]
  rw [Center.persist, hcall]
  cases Unpair.parse env.payload with
  | ok unpair => rfl
  | error e => rfl

variable {center : Center Db} {stamp : Stamp} {env : Envelope}

theorem unlisted_persist_unpair (htype : env.messageType = .deviceUnpair) :
    (center.persist centerSink stamp env).store.Unlisted env.deviceId ↔
      (Unpair.parse env.payload).isOk = true ∨ env.deviceId ∉ center.store.deviceIds := by
  rw [store_persist_unpair htype]
  cases hread : Unpair.parse env.payload with
  | ok unpair =>
    have hunlisted : (CenterSink.onUnpair stamp env.deviceId center.store unpair).Unlisted
        env.deviceId := unlisted_removal ..
    simp [hunlisted, Except.isOk, Except.toBool]
  | error e =>
    have hunlisted : center.store.Unlisted env.deviceId ↔
        env.deviceId ∉ center.store.deviceIds := Tables.unlisted_iff center.store.foreignKeys
    simp [hunlisted, Except.isOk, Except.toBool]

theorem unlogged_persist_unpair (htype : env.messageType = .deviceUnpair)
    (h : (Unpair.parse env.payload).isOk = true ∨ env.deviceId ∉ center.store.deviceIds) :
    (center.persist centerSink stamp env).store.unlogged =
      (center.store.deleteDevice env.deviceId).unlogged := by
  rw [store_persist_unpair htype]
  cases hread : Unpair.parse env.payload with
  | ok unpair => exact unlogged_removal ..
  | error e =>
    have hunknown : env.deviceId ∉ center.store.deviceIds := by
      simpa [hread, Except.isOk, Except.toBool] using h
    rw [Tables.deleteDevice_of_unknown center.store.foreignKeys hunknown]

variable (stamp) in
/-- When a message with which a device unpairs itself keeps the promise. -/
theorem forgets_unpair_iff (htype : env.messageType = .deviceUnpair) :
    (s.withCenter (s.hub.center.persist centerSink stamp env)).Forgotten env.deviceId ∧
        (∀ now, (s.withCenter (s.hub.center.persist centerSink stamp env)).SameButLog
          (s.removeDevice dbMessage now env.deviceId).2) ↔
      s.hub.center.sessions.pairing.get env.deviceId = none ∧
        s.hub.center.sessions.pendingIncoming.get env.deviceId = none ∧
        s.hub.center.registry.inner.get env.deviceId = none ∧
        s.pinStore.get env.deviceId = none ∧
        ((Unpair.parse env.payload).isOk = true ∨
          env.deviceId ∉ s.hub.center.store.deviceIds) := by
  have hsessions := s.hub.center.sessions_persist centerSink env stamp
  have hregistry := s.hub.center.registry_persist centerSink env stamp
  constructor
  · rintro ⟨hforgotten, -⟩
    have hsession := hforgotten.session
    have hpending := hforgotten.pending
    have hentry := hforgotten.entry
    simp only [withCenter, hsessions, hregistry] at hsession hpending hentry
    exact ⟨hsession, hpending, hentry, hforgotten.pin,
      (unlisted_persist_unpair htype).mp hforgotten.rows⟩
  · rintro ⟨hsession, hpending, hentry, hpin, hrows⟩
    constructor
    · constructor
      · simpa only [withCenter, hsessions] using hsession
      · simpa only [withCenter, hsessions] using hpending
      · simpa only [withCenter, hregistry] using hentry
      · exact hpin
      · exact (unlisted_persist_unpair htype).mpr hrows
    · intro now
      rw [removeDevice_succeeds]
      constructor
      · simp only [withCenter, hsessions, KeyMap.remove_get hsession]
      · simp only [withCenter, hregistry, DeviceRegistry.unregister, KeyMap.remove_get hentry]
      · rfl
      · exact (KeyMap.remove_get hpin).symm
      · exact (unlogged_persist_unpair htype hrows).trans (unlogged_removal ..).symm

/-- When a step keeps the promise. -/
theorem forgets_iff (label : ServerLabel) :
    s.Forgets ctx dbMessage label ↔ s.Unencumbered label := by
  refine and_congr (forall_congr' fun env ↦ forall_congr' fun hunpair ↦ ?_) ?_
  · obtain ⟨stamp, hstep⟩ := s.step_unpair ctx dbMessage hunpair
    rw [← forgets_unpair_iff s dbMessage stamp hunpair.1]
    simp only [hstep, Option.some.injEq, forall_eq']
  · refine forall_congr' fun now ↦ forall_congr' fun deviceId ↦ forall_congr' fun _ ↦ ?_
    rw [forgotten_removeDevice, removeDevice_succeeds]
    simp

end Effects

/-- The audit log tells the two ways apart: only the device's own message logs a reason. -/
theorem logs_differ (db : Db) (stamp : Stamp) (now : Int64) (deviceId : Uuid) (unpair : Unpair) :
    (CenterSink.onUnpair stamp deviceId db unpair).auditLog ≠
      (AppState.removeDevice (fun _ ↦ "") now deviceId (start db)).2.hub.center.store.auditLog := by
  have hlogged : ∀ (now : Int64) (detail : Option String),
      let audited := warned db (db.insertAuditLog now (some deviceId) "device.unpair" detail)
      (warned audited (audited.removeDevice deviceId)).auditLog.rows =
        db.auditLog.rows ++ [{
          id := db.auditLog.last + 1, timestamp := now, deviceId, event := "device.unpair"
          detail }] := by
    intro now detail audited
    rw [toTables_removal]
    rfl
  intro heq
  have hrows := congrArg NumberedTable.rows heq
  rw [removeDevice_succeeds] at hrows
  have hrow := List.append_cancel_left ((hlogged _ _).symm.trans (hrows.trans (hlogged _ _)))
  simp at hrow

/-- Unpairing is complete, and its two ways agree, in the runs in which every device that is unpaired
is unencumbered. -/
theorem unpairing_is_complete_iff (ctx : WsContext) (dbMessage : DbError → String) (s : AppState)
    (labels : List ServerLabel) :
    Run.Throughout (step ctx dbMessage) (fun s label ↦ s.Forgets ctx dbMessage label) s labels ↔
      Run.Throughout (step ctx dbMessage) (fun s label ↦ s.Unencumbered label) s labels :=
  Run.throughout_congr (fun _ ↦ True) (fun _ _ _ _ _ ↦ trivial)
    (fun s label _ ↦ s.forgets_iff ctx dbMessage label) trivial

/-! ## From a fresh start -/

/-- A frame of the phone 1 on connection 0. -/
def phoneFrame (env : Envelope) : ServerLabel :=
  .connection (.frame 0 (.text env.toJson) {
    sink := { now := 1000, freshId := .nil }
    dispatch := sampleDraws })

def sampleRequest : Envelope :=
  Envelope.new .nil 1000 .devicePairRequest ⟨1⟩ (PairRequest.toValue { ephemeralPubkey := "" })

def sampleUnpair : Envelope :=
  Envelope.new .nil 1000 .deviceUnpair ⟨1⟩ (Unpair.toValue { reason := none })

theorem envelope_phoneFrame (env : Envelope) : (Frame.text env.toJson).envelope = some env := by
  simp [Frame.envelope, Envelope.fromJson_toJson, Except.toOption]

/-- The phone connects and says hello. -/
def sampleVisit : List ServerLabel :=
  [.connection (.accept 0 { now := 1000, freshId := .nil }), phoneFrame (helloEnvelope ⟨1⟩ "one")]

theorem sampleVisit_entry : ∃ t,
    Run.exec (step sampleContext fun _ ↦ "") (start .empty) sampleVisit = some t ∧
      t.hub.inPhase 0 .serving ≠ none ∧ t.hub.center.registry.inner.get ⟨1⟩ = some 0 := by
  refine ⟨_, rfl, Option.some_ne_none _, rfl⟩

/-- The phone connects and asks for a pairing. -/
def sampleAsking : List ServerLabel :=
  [.connection (.accept 0 { now := 1000, freshId := .nil }), phoneFrame sampleRequest]

theorem sampleAsking_pending : ∃ t,
    Run.exec (step sampleContext fun _ ↦ "") (start .empty) sampleAsking = some t ∧
      t.hub.center.sessions.pendingIncoming.get ⟨1⟩ ≠ none := by
  refine ⟨_, rfl, Option.some_ne_none _⟩

/-- A phone that has said hello leaves its registry entry behind when it unpairs itself, and a phone
that has asked for a pairing leaves its request behind when it is removed. -/
theorem unpairing_is_incomplete :
    ¬ Run.Throughout (step sampleContext fun _ ↦ "")
        (fun s label ↦ s.Forgets sampleContext (fun _ ↦ "") label) (start .empty)
        (sampleVisit ++ [phoneFrame sampleUnpair]) ∧
      ¬ Run.Throughout (step sampleContext fun _ ↦ "")
        (fun s label ↦ s.Forgets sampleContext (fun _ ↦ "") label) (start .empty)
        (sampleAsking ++ [.removeDevice 1000 ⟨1⟩]) := by
  constructor
  · intro h
    obtain ⟨t, hrun, hserving, hentry⟩ := sampleVisit_entry
    have hclear := (forgets_iff _ _ _ _).mp (h.at_step hrun)
    have hnone := (hclear.1 sampleUnpair
      ⟨rfl, hserving, envelope_phoneFrame sampleUnpair⟩).2.2.1
    rw [show sampleUnpair.deviceId = ⟨1⟩ from rfl, hentry] at hnone
    cases hnone
  · intro h
    obtain ⟨t, hrun, hpending⟩ := sampleAsking_pending
    have hclear := (forgets_iff _ _ _ _).mp (h.at_step hrun)
    exact hpending (hclear.2 1000 ⟨1⟩ rfl)

end AppState

end PhoneBridge.MessageCenter
