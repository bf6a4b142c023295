import PhoneBridge.MessageCenter.Unpairing
import PhoneBridge.Storage.Outages

/-!
# Removing a device when the database fails

`DELETE /api/v1/devices/{id}` takes away the session, the registry entry and the pin and writes the
audit log before the one statement that can make it answer an error. When that statement cannot be
executed the rows of the device stay, and everything else is gone.
-/

namespace PhoneBridge.MessageCenter

open Library Proto Net Storage

namespace AppState

/-- `DELETE /api/v1/devices/{id}` over a database that may fail to execute either statement. -/
def removeDeviceUnder (auditOutage deleteOutage : Outage)
    (statementMessage : StatementError → String) (now : Int64) (deviceId : Uuid) (s : AppState) :
    Response × AppState :=
  let center := s.hub.center
  let audited := center.store.afterStatement (execute auditOutage
    (center.store.insertAuditLog now (some deviceId) "device.unpair" none))
  s.removed statementMessage deviceId audited (execute deleteOutage (audited.removeDevice deviceId))

/-- What is kept of a device outside its rows: session, registry entry, pin and audit trail are the
same. -/
structure Untouched (before after : AppState) (deviceId : Uuid) : Prop where
  session : after.hub.center.sessions.pairing.get deviceId =
    before.hub.center.sessions.pairing.get deviceId
  entry : after.hub.center.registry.inner.get deviceId =
    before.hub.center.registry.inner.get deviceId
  pin : after.pinStore.get deviceId = before.pinStore.get deviceId
  auditTrail : (after.hub.center.store.owned deviceId).auditLog =
    (before.hub.center.store.owned deviceId).auditLog

/-- Session, registry entry and pin are gone, and so are the row of the device and its child rows.
The audit trail is the record of it. -/
structure Gone (after : AppState) (deviceId : Uuid) : Prop where
  session : after.hub.center.sessions.pairing.get deviceId = none
  entry : after.hub.center.registry.inner.get deviceId = none
  pin : after.pinStore.get deviceId = none
  rows : after.hub.center.store.Unlisted deviceId

/-- An error leaves the device as it was, a success leaves nothing of it. -/
def AllOrNothing (s : AppState) (deviceId : Uuid) (result : Response × AppState) : Prop :=
  (result.1.status ≠ 204 → Untouched s result.2 deviceId) ∧
    (result.1.status = 204 → Gone result.2 deviceId)

section Removal

variable (s : AppState) (auditOutage deleteOutage : Outage)
  (statementMessage : StatementError → String) (now : Int64) (deviceId : Uuid)

/-- The database once the audit log has been written, or has not. -/
def audited : Db := s.hub.center.store.afterStatement (execute auditOutage
  (s.hub.center.store.insertAuditLog now (some deviceId) "device.unpair" none))

/-- A deletion that cannot be executed comes after everything else is gone. -/
theorem removeDeviceUnder_some (message : String) :
    (s.removeDeviceUnder auditOutage (some message) statementMessage now deviceId).1.status = 500 ∧
      (s.removeDeviceUnder auditOutage (some message) statementMessage now deviceId).2 =
        s.forgetting deviceId (s.audited auditOutage now deviceId) :=
  ⟨rfl, rfl⟩

/-- A deletion that is executed succeeds. -/
theorem removeDeviceUnder_executed : ∃ store : Db,
    s.removeDeviceUnder auditOutage none statementMessage now deviceId =
      ({ status := 204, text := "" }, s.forgetting deviceId store) ∧
    store.toTables = (s.audited auditOutage now deviceId).deleteDevice deviceId := by
  obtain ⟨store, hstore⟩ := Tables.commit_succeeds.mpr
    (constraints_deleteDevice (s.audited auditOutage now deviceId) deviceId)
  have hremoved : (s.audited auditOutage now deviceId).removeDevice deviceId = .ok store := hstore
  refine ⟨store, ?_, Tables.commit_eq_ok.mp hstore⟩
  unfold audited at hremoved
  simp only [removeDeviceUnder, hremoved, execute_ok]
  rfl

theorem audited_none : s.audited none now deviceId = warned s.hub.center.store
    (s.hub.center.store.insertAuditLog now (some deviceId) "device.unpair" none) :=
  afterStatement_none _ _

/-- Over a database that executes both statements it is the removal of a running server. -/
theorem removeDeviceUnder_none : s.removeDeviceUnder none none statementMessage now deviceId =
    s.removeDevice (fun e ↦ statementMessage (.constraint e)) now deviceId := by
  simp only [removeDevice, removeDeviceUnder, afterStatement_none, warned]
  cases (((s.hub.center.store.insertAuditLog now (some deviceId) "device.unpair"
    none).toOption.getD s.hub.center.store).removeDevice deviceId) <;> rfl

/-- The audit trail grows by one line, unless the line cannot be written. -/
theorem auditTrail_audited :
    ((s.audited auditOutage now deviceId).owned deviceId).auditLog =
      (s.hub.center.store.owned deviceId).auditLog ++
        if auditOutage = none then [{
          id := s.hub.center.store.auditLog.last + 1, timestamp := now, deviceId,
          event := "device.unpair", detail := none }]
        else [] := by
  cases auditOutage with
  | some message => simp [audited]
  | none =>
    have htables := toTables_insertAuditLog s.hub.center.store now (some deviceId)
      "device.unpair" none
    rw [audited_none, htables]
    simp [Tables.owned, List.filter_append]

/-- A removal leaves nothing of the device but its audit trail. -/
theorem gone_forgetting {store : Db} {t : Tables} (h : store.toTables = t.deleteDevice deviceId) :
    Gone (s.forgetting deviceId store) deviceId where
  session := KeyMap.get_remove_self _ _
  entry := KeyMap.get_remove_self _ _
  pin := KeyMap.get_remove_self _ _
  rows := by
    change store.Unlisted deviceId
    rw [Tables.Unlisted, h]
    simp [Tables.deleteDevice, Tables.owned, Tables.Owned.remove, List.filter_filter]

/-- What is forgotten is as before only if it was not there, and the log has not been written. -/
theorem untouched_forgetting :
    Untouched s (s.forgetting deviceId (s.audited auditOutage now deviceId)) deviceId ↔
      auditOutage ≠ none ∧ s.hub.center.sessions.pairing.get deviceId = none ∧
        s.hub.center.registry.inner.get deviceId = none ∧ s.pinStore.get deviceId = none := by
  have htrail := s.auditTrail_audited auditOutage now deviceId
  constructor
  · intro h
    refine ⟨?_, ?_, ?_, ?_⟩
    · rintro rfl
      have hsame := htrail.symm.trans h.auditTrail
      simp at hsame
    · exact h.session.symm.trans (KeyMap.get_remove_self _ _)
    · exact h.entry.symm.trans (KeyMap.get_remove_self _ _)
    · exact h.pin.symm.trans (KeyMap.get_remove_self _ _)
  · rintro ⟨houtage, hsession, hentry, hpin⟩
    constructor
    · exact (KeyMap.get_remove_self _ _).trans hsession.symm
    · exact (KeyMap.get_remove_self _ _).trans hentry.symm
    · exact (KeyMap.get_remove_self _ _).trans hpin.symm
    · exact htrail.trans (by simp [houtage])

/-- A removal is all or nothing exactly when its deletion can be executed, or nothing but rows was
there and the audit log could not be written either. The audit trail is never gone after a success,
unless it was empty and could not be written. -/
theorem removal_all_or_nothing_iff :
    let result := s.removeDeviceUnder auditOutage deleteOutage statementMessage now deviceId
    (AllOrNothing s deviceId result ↔ deleteOutage = none ∨ auditOutage ≠ none ∧
      s.hub.center.sessions.pairing.get deviceId = none ∧
      s.hub.center.registry.inner.get deviceId = none ∧ s.pinStore.get deviceId = none) ∧
    (result.1.status = 204 → ((result.2.hub.center.store.owned deviceId).auditLog = [] ↔
      auditOutage ≠ none ∧ (s.hub.center.store.owned deviceId).auditLog = [])) := by
  intro result
  cases hdelete : deleteOutage with
  | none =>
    obtain ⟨store, hresult, htables⟩ :=
      s.removeDeviceUnder_executed auditOutage statementMessage now deviceId
    have hresult : result = ({ status := 204, text := "" }, s.forgetting deviceId store) := by
      rw [← hresult, ← hdelete]
    have htrail : (store.owned deviceId).auditLog =
        ((s.audited auditOutage now deviceId).owned deviceId).auditLog := by
      rw [htables]
      rfl
    rw [hresult]
    constructor
    · apply iff_of_true _ (.inl rfl)
      exact ⟨fun hstatus ↦ absurd rfl hstatus, fun _ ↦ s.gone_forgetting deviceId htables⟩
    · intro _
      change (store.owned deviceId).auditLog = [] ↔ _
      rw [htrail, auditTrail_audited, List.append_eq_nil_iff, and_comm]
      cases auditOutage <;> simp
  | some message =>
    obtain ⟨hstatus, hafter⟩ :=
      s.removeDeviceUnder_some auditOutage statementMessage now deviceId message
    rw [← hdelete] at hstatus hafter
    change result.1.status = 500 at hstatus
    change result.2 = _ at hafter
    have hnot : result.1.status ≠ 204 := by
      rw [hstatus]
      decide
    refine ⟨?_, fun hsuccess ↦ absurd hsuccess hnot⟩
    rw [AllOrNothing, hafter, untouched_forgetting]
    simp [hnot]

end Removal

/-- A server that has pinned the certificate of a device. -/
def samplePinned : AppState :=
  { start .empty with pinStore := KeyMap.empty.insert ⟨1⟩ "AB:CD" }

/-- While the database is locked, a removal answers an error and forgets the pin. -/
theorem failed_removal_forgets_pin : ¬ ∀ (s : AppState) (auditOutage deleteOutage : Outage)
    (statementMessage : StatementError → String) (now : Int64) (deviceId : Uuid),
    AllOrNothing s deviceId
      (s.removeDeviceUnder auditOutage deleteOutage statementMessage now deviceId) := by
  intro h
  have hpin := ((h samplePinned none (some "database is locked") (fun _ ↦ "") 1000 ⟨1⟩).1
    (by decide)).pin
  exact absurd hpin (by decide)

end AppState

end PhoneBridge.MessageCenter
