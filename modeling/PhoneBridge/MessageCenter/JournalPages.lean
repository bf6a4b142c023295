import PhoneBridge.Library.Pages
import PhoneBridge.MessageCenter.NotificationCounters
import PhoneBridge.Storage.Journals

/-!
# The pages of calls and of the audit log

`GET /api/v1/calls` and `GET /api/v1/audit`.
-/

namespace PhoneBridge.MessageCenter

open Library Select Storage

/-! ## The handlers -/

structure ListCallsQuery where
  deviceId : Option Uuid
  limit : Option Int64

structure AuditQuery where
  limit : Option Int64

def ListCallsQuery.rows (q : ListCallsQuery) : Int64 := clampedLimit q.limit 50 500

def AuditQuery.rows (q : AuditQuery) : Int64 := clampedLimit q.limit 100 1000

def listCalls (db : Db) (outage : Outage) (q : ListCallsQuery) : Except QueryError (List CallRow) :=
  queried outage (.ok (db.listCalls q.deviceId q.rows.toInt.toNat))

def listAudit (db : Db) (visit : Visit db.auditLog.rows) (outage : Outage) (q : AuditQuery) :
    Except QueryError (List AuditLogRow) :=
  queried outage (db.listAuditLog visit q.rows)

/-! ## What they show -/

theorem lists_listCalls (db : Db) (deviceId : Option Uuid) (limit : Nat) :
    Lists db.calls.rows (fun row ↦ deviceId.all (row.deviceId = ·)) (·.startedAt) limit
      (db.listCalls deviceId limit) :=
  lists_newest (List.Perm.refl db.calls.rows)

/-- After any sequence of statements on a new database a page of calls lists the newest of the calls
that have been reported since their devices were last removed, and a page of the audit log the
newest of all entries that have ever been made. -/
theorem journal_pages_show_history (statements : List Statement) (calls : ListCallsQuery)
    (audit : AuditQuery) :
    let run := fun (db : Db) (s : Statement) ↦ s.run db
    let db := (Service.perform run Db.empty statements).2
    (∃ page, listCalls db none calls = .ok page ∧
      Lists (keptCalls (Service.accepted run Db.empty statements))
        (fun call ↦ calls.deviceId.all (call.deviceId = ·)) (·.startedAt) calls.rows.toInt.toNat
        (page.map CallRow.unnumbered)) ∧
    ∀ visit : Visit db.auditLog.rows, ∃ page, listAudit db visit none audit = .ok page ∧
      Lists (statements.filterMap Statement.logged) (fun _ ↦ true) (·.timestamp)
        audit.rows.toInt.toNat (page.map AuditLogRow.unnumbered) := by
  intro run db
  constructor
  · refine ⟨_, rfl, ?_⟩
    exact (lists_listCalls db _ _).map.of_perm (calls_perform statements)
  · intro visit
    have hlimit : 0 ≤ audit.rows :=
      Int64.le_trans (by decide) (clampedLimit_range (by decide)).1
    refine ⟨newest (fun _ ↦ true) (·.timestamp) audit.rows.toInt.toNat visit, ?_, ?_⟩
    · rw [listAudit, listAuditLog_eq db visit hlimit]
      rfl
    · have hlog : db.auditLog.rows.map AuditLogRow.unnumbered =
          statements.filterMap Statement.logged :=
        Statement.auditLog_perform regular_empty statements
      rw [← hlog]
      exact (lists_newest visit.property).map

end PhoneBridge.MessageCenter
