import PhoneBridge.Storage.Growth
import PhoneBridge.Storage.Listings

/-!
# Calls and the audit log

Rows of these two tables are numbered, so that none is ever replaced. The calls that are there are
those that have been inserted since their device was last removed; the audit log has every entry.
-/

namespace PhoneBridge.Storage

open Library Select

def CallRow.unnumbered (c : CallRow) : CallRow := { c with id := 0 }

@[simp]
theorem CallRow.unnumbered_deviceId (c : CallRow) : c.unnumbered.deviceId = c.deviceId := rfl

def AuditLogRow.unnumbered (entry : AuditLogRow) : AuditLogRow := { entry with id := 0 }

/-- The calls of a log whose device is not removed after them. -/
def keptCalls : List Statement → List CallRow
  | [] => []
  | .insertCall c :: log =>
    if log.any (·.removes c.deviceId) then keptCalls log else c.unnumbered :: keptCalls log
  | _ :: log => keptCalls log

theorem keptCalls_insertCall (c : CallRow) (log : List Statement) :
    keptCalls (.insertCall c :: log) =
      if log.any (·.removes c.deviceId) then keptCalls log
      else c.unnumbered :: keptCalls log :=
  rfl

theorem keptCalls_removeDevice (removed : Uuid) (log : List Statement) :
    keptCalls (.removeDevice removed :: log) = keptCalls log :=
  rfl

/-- What a statement does to the calls of a device. -/
def noteCalls (deviceId : Uuid) (calls : List CallRow) : Statement → List CallRow
  | .removeDevice removed => if removed = deviceId then [] else calls
  | .insertCall c => if c.deviceId = deviceId then calls ++ [c.unnumbered] else calls
  | _ => calls

section OneDevice

variable {db : Db} {r next : Records} {s : Statement} {answer : Option String} {deviceId : Uuid}

theorem calls_apply (h : s.apply r = .ok (answer, next)) :
    next.part (·.calls) [] deviceId = noteCalls deviceId (r.part (·.calls) [] deviceId) s := by
  rcases Statement.apply_cases h with ⟨d, rfl, hupserted⟩ | ⟨removed, rfl, hnext⟩ |
    ⟨timestamp, logged, event, detail, rfl, hnext⟩ | ⟨changed, f, hchange, rfl, hknown⟩
  · exact Records.part_upsertDevice (fun _ ↦ rfl) (fun _ _ ↦ rfl) hupserted
  · rw [Records.part, hnext, KeyMap.get_remove, noteCalls]
    by_cases hremoved : deviceId = removed
    · rw [if_pos hremoved, if_pos hremoved.symm]
      rfl
    · rw [if_neg hremoved, if_neg (Ne.symm hremoved)]
      rfl
  · rw [Records.part, hnext]
    rfl
  · rw [Records.part_change]
    cases s with
    | upsertDevice _ | removeDevice _ | insertAuditLog _ _ _ _ => cases hchange
    | insertCall c =>
      cases hchange
      rw [noteCalls]
      by_cases hdevice : deviceId = c.deviceId
      · obtain ⟨record, hrecord⟩ := Option.isSome_iff_exists.mp (hknown rfl)
        rw [if_pos hdevice, if_pos hdevice.symm, Records.part, Records.part, hdevice, hrecord]
        rfl
      · rw [if_neg hdevice, if_neg (Ne.symm hdevice)]
    | touchDevice _ _ | insertPairing _ _ _ _ | markDevicePaired _ | insertNotification _
    | markNotificationRead _ _ | dismissNotification _ _ | insertSms _ =>
      cases hchange
      exact ite_self _

/-- The calls of a device after a log, whatever they were before it. -/
theorem foldl_noteCalls (log : List Statement) (calls : List CallRow) :
    log.foldl (noteCalls deviceId) calls =
      (if log.any (·.removes deviceId) then [] else calls) ++
        (keptCalls log).filter (·.deviceId = deviceId) := by
  induction log generalizing calls with
  | nil => exact (List.append_nil calls).symm
  | cons s log ih =>
    rw [List.foldl_cons, ih, List.any_cons]
    cases s with
    | removeDevice removed =>
      rw [keptCalls_removeDevice, Statement.removes]
      by_cases hremoved : removed = deviceId <;> simp [noteCalls, hremoved]
    | insertCall c =>
      have hremoves : (Statement.insertCall c).removes deviceId = false := rfl
      rw [keptCalls_insertCall, noteCalls, hremoves, Bool.false_or]
      by_cases hdevice : c.deviceId = deviceId
      · subst hdevice
        -- the call is kept when its device is not removed later
        by_cases hlater : log.any (·.removes c.deviceId) = true
        · rw [if_pos hlater, if_pos hlater, if_pos hlater]
        · simp [hlater]
      · rw [if_neg hdevice]
        split_ifs <;> simp [hdevice]
    | upsertDevice _ | touchDevice _ _ | insertPairing _ _ _ _ | markDevicePaired _
    | insertNotification _ | markNotificationRead _ _ | dismissNotification _ _ | insertSms _
    | insertAuditLog _ _ _ _ => rfl

/-- The rows of a device in the table, and its calls in the records. -/
theorem callsOf_eq (db : Db) (deviceId : Uuid) :
    db.callsOf deviceId = db.records.part (·.calls) [] deviceId := by
  rw [Records.part, get_records]
  cases hrow : lookupBy (·.deviceId) db.devices.rows deviceId with
  | some row => rfl
  | none =>
    have hunknown : deviceId ∉ db.references := fun href ↦
      lookupBy_eq_none.mp hrow (db.foreignKeys _ href)
    rw [Tables.callsOf, Option.map_none, Option.map_none, Option.getD_none, List.map_eq_nil_iff,
      List.filter_eq_nil_iff]
    intro call hcall hdevice
    refine hunknown ?_
    simp only [Tables.references, List.mem_append]
    exact .inr (of_decide_eq_true hdevice ▸ List.mem_map_of_mem hcall)

end OneDevice

/-- The table holds the calls that are kept, in some order. -/
theorem calls_perform (statements : List Statement) :
    let run := fun (db : Db) (s : Statement) ↦ s.run db
    ((Service.perform run Db.empty statements).2.calls.rows.map CallRow.unnumbered).Perm
      (keptCalls (Service.accepted run Db.empty statements)) := by
  intro run
  have hdevice : ∀ deviceId,
      (Service.perform run Db.empty statements).2.callsOf deviceId =
        (keptCalls (Service.accepted run Db.empty statements)).filter (·.deviceId = deviceId) := by
    intro deviceId
    have hparts := Service.part_perform (fun db : Db ↦ db.records.part (·.calls) [] deviceId)
      (noteCalls deviceId) (fun _ _ _ _ ↦ regular_run)
      (fun _ _ _ _ hregular hrun ↦ calls_apply (apply_of_run hregular hrun)) regular_empty
      statements
    rw [callsOf_eq, hparts, foldl_noteCalls]
    exact congrArg (· ++ _) (ite_self _)
  refine List.perm_iff_count.mpr fun call ↦ ?_
  have hcall : decide (call.deviceId = call.deviceId) = true := decide_eq_true rfl
  have hcount (calls : List CallRow) :
      (calls.filter (·.deviceId = call.deviceId)).count call = calls.count call :=
    List.count_filter (p := fun c : CallRow ↦ c.deviceId = call.deviceId) hcall
  let db := (Service.perform run Db.empty statements).2
  let kept := keptCalls (Service.accepted run Db.empty statements)
  calc (db.calls.rows.map CallRow.unnumbered).count call
    _ = ((db.calls.rows.map CallRow.unnumbered).filter (·.deviceId = call.deviceId)).count call :=
        (hcount _).symm
    _ = (db.callsOf call.deviceId).count call := by
        rw [List.filter_map]
        rfl
    _ = (kept.filter (·.deviceId = call.deviceId)).count call := by
        rw [hdevice]
    _ = kept.count call := hcount kept

/-! ## The listing of the audit log -/

/-- The table `audit_log`. -/
def auditRelation : Relation AuditLogRow where
  name := "audit_log"
  columns := [("id", .integer), ("timestamp", .integer), ("device_id", .blob), ("event", .text),
    ("detail", .text)]
  value row
    | "id" => .integer (.ofNat row.id)
    | "timestamp" => .integer row.timestamp
    | "device_id" => .ofOption uuidValue row.deviceId
    | "event" => .text row.event
    | "detail" => .ofOption .text row.detail
    | _ => .null

def auditSql : String :=
  "SELECT id, timestamp, device_id, event, detail FROM audit_log " ++ "ORDER BY timestamp DESC " ++
    "LIMIT ?1"

/-- List recent audit log rows, newest first. -/
def Db.listAuditLog (db : Db) (visit : Visit db.auditLog.rows) (limit : Int64) :
    Except SelectError (List AuditLogRow) :=
  fetchAll auditRelation [.integer limit] visit auditSql

def auditQuery : Query where
  columns := auditRelation.columns.map Prod.fst
  table := "audit_log"
  conditions := []
  orderBy := "timestamp"
  limit := .param 1

set_option maxRecDepth 4000 in
theorem parse_auditSql : parse auditSql = some auditQuery :=
  (parse_append _ _ _).trans (by decide +kernel)

theorem binds_audit (limit : Int64) : auditQuery.Binds auditRelation [.integer limit] where
  numbered := rfl
  table := rfl
  known := by decide
  fetched := fun _ h ↦ h
  comparable := List.forall_mem_nil _
  limit := ⟨limit, rfl⟩

theorem listAuditLog_eq (db : Db) (visit : Visit db.auditLog.rows) {limit : Int64}
    (hlimit : 0 ≤ limit) : db.listAuditLog visit limit =
      .ok (newest (fun _ ↦ true) (·.timestamp) limit.toInt.toNat visit) :=
  fetchAll_newest parse_auditSql (binds_audit limit) rfl hlimit (fun _ ↦ rfl) (fun _ ↦ rfl) visit

end PhoneBridge.Storage
