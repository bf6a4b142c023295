import PhoneBridge.Library.Table
import PhoneBridge.Library.Uuid

/-!
# The database schema

The tables of the migrations with their constraints. `Tables` is what a statement computes; a `Db`
also meets the unique constraints and the foreign keys, so a statement either yields another `Db` or
fails.
-/

namespace PhoneBridge.Storage

open Library

/-- One row of the `devices` table. -/
structure DeviceRow where
  id : Nat
  name : String
  deviceId : Uuid
  publicKey : String
  lastSeen : Int64
  paired : Bool
  hardwareId : Option String
  deriving DecidableEq, Repr

/-- One row of the `pairings` table. -/
structure PairingRow where
  id : Nat
  deviceId : Uuid
  certPem : String
  certFingerprint : String
  pairedAt : Int64
  deriving DecidableEq, Repr

/-- One row of the `sessions` table; the program writes none. -/
structure SessionRow where
  id : Nat
  deviceId : Uuid
  connectedAt : Int64
  disconnectedAt : Option Int64
  peerAddr : String
  deriving DecidableEq, Repr

/-- One row of the `notifications` table. -/
structure NotificationRow where
  id : String
  deviceId : Uuid
  packageName : String
  appName : Option String
  title : String
  content : String
  postedAt : Int64
  isSensitive : Bool
  category : Option String
  read : Bool
  deriving DecidableEq, Repr

/-- One row of the `sms_messages` table. -/
structure SmsRow where
  id : String
  deviceId : Uuid
  simSlot : Option UInt8
  phoneNumber : String
  body : String
  direction : String
  timestamp : Int64
  deriving DecidableEq, Repr

/-- One row of the `calls` table. -/
structure CallRow where
  id : Nat
  deviceId : Uuid
  phoneNumber : String
  contactName : Option String
  state : String
  startedAt : Int64
  endedAt : Option Int64
  direction : String
  durationSecs : Option Int64
  simSlot : Option UInt8
  deriving DecidableEq, Repr

/-- One row of the `audit_log` table. -/
structure AuditLogRow where
  id : Nat
  timestamp : Int64
  deviceId : Option Uuid
  event : String
  detail : Option String
  deriving DecidableEq, Repr

/-- The tables with their primary keys. -/
structure Tables where
  devices : NumberedTable DeviceRow (·.id)
  pairings : NumberedTable PairingRow (·.id)
  sessions : NumberedTable SessionRow (·.id)
  notifications : KeyedTable NotificationRow fun row ↦ (row.id, row.deviceId)
  smsMessages : KeyedTable SmsRow fun row ↦ (row.id, row.deviceId)
  calls : NumberedTable CallRow (·.id)
  auditLog : NumberedTable AuditLogRow (·.id)

namespace Tables

/-- The parent keys: the device ids that a child row may refer to. -/
def deviceIds (t : Tables) : List Uuid := t.devices.rows.map (·.deviceId)

/-- The device ids that the child rows refer to. -/
def references (t : Tables) : List Uuid :=
  t.pairings.rows.map (·.deviceId) ++ t.sessions.rows.map (·.deviceId) ++
    t.notifications.rows.map (·.deviceId) ++ t.smsMessages.rows.map (·.deviceId) ++
    t.calls.rows.map (·.deviceId)

/-- The `UNIQUE` columns. -/
structure Unique (t : Tables) : Prop where
  devices : t.deviceIds.Nodup
  pairings : (t.pairings.rows.map (·.deviceId)).Nodup

/-- `FOREIGN KEY (device_id) REFERENCES devices(device_id)` of every child table. -/
def ForeignKeys (t : Tables) : Prop := ∀ id ∈ t.references, id ∈ t.deviceIds

instance (t : Tables) : Decidable t.Unique :=
  decidable_of_iff (t.deviceIds.Nodup ∧ (t.pairings.rows.map (·.deviceId)).Nodup)
    ⟨fun h ↦ ⟨h.1, h.2⟩, fun h ↦ ⟨h.devices, h.pairings⟩⟩

instance (t : Tables) : Decidable t.ForeignKeys := by
  unfold ForeignKeys
  infer_instance

/-- The rows of all tables that belong to a device. -/
structure Owned where
  devices : List DeviceRow
  pairings : List PairingRow
  sessions : List SessionRow
  notifications : List NotificationRow
  smsMessages : List SmsRow
  calls : List CallRow
  auditLog : List AuditLogRow
  deriving DecidableEq

def owned (t : Tables) (deviceId : Uuid) : Owned where
  devices := t.devices.rows.filter (·.deviceId = deviceId)
  pairings := t.pairings.rows.filter (·.deviceId = deviceId)
  sessions := t.sessions.rows.filter (·.deviceId = deviceId)
  notifications := t.notifications.rows.filter (·.deviceId = deviceId)
  smsMessages := t.smsMessages.rows.filter (·.deviceId = deviceId)
  calls := t.calls.rows.filter (·.deviceId = deviceId)
  auditLog := t.auditLog.rows.filter (·.deviceId = some deviceId)

end Tables

/-- A database in which the constraints hold. -/
structure Db extends Tables where
  unique : toTables.Unique
  foreignKeys : toTables.ForeignKeys

theorem Db.eq_of_toTables {db db' : Db} (h : db.toTables = db'.toTables) : db = db' := by
  cases db
  cases db'
  cases h
  rfl

/-- Errors from the storage layer: the constraint that a statement violates. -/
inductive DbError
  | unique
  | foreignKey
  deriving DecidableEq, Repr

/-- The end of a statement: its changes are kept when the constraints hold. -/
def Tables.commit (t : Tables) : Except DbError Db :=
  if hunique : t.Unique then
    if hforeign : t.ForeignKeys then .ok { t with unique := hunique, foreignKeys := hforeign }
    else .error .foreignKey
  else .error .unique

/-- The database after the migrations. -/
def Db.empty : Db where
  devices := .empty
  pairings := .empty
  sessions := .empty
  notifications := .empty
  smsMessages := .empty
  calls := .empty
  auditLog := .empty
  unique := ⟨.nil, .nil⟩
  foreignKeys := fun _ h ↦ absurd h List.not_mem_nil

theorem Tables.commit_eq_ok {t : Tables} {db : Db} : t.commit = .ok db ↔ db.toTables = t := by
  unfold commit
  constructor
  · intro h
    split at h
    · split at h
      · cases h
        rfl
      · cases h
    · cases h
  · rintro rfl
    rw [dif_pos db.unique, dif_pos db.foreignKeys]

theorem Tables.commit_succeeds {t : Tables} :
    (∃ db, t.commit = .ok db) ↔ t.Unique ∧ t.ForeignKeys := by
  constructor
  · rintro ⟨db, hdb⟩
    obtain rfl := commit_eq_ok.mp hdb
    exact ⟨db.unique, db.foreignKeys⟩
  · rintro ⟨hunique, hforeign⟩
    exact ⟨{ t with unique := hunique, foreignKeys := hforeign }, commit_eq_ok.mpr rfl⟩

/-- The devices of a database by their device ids. -/
theorem Db.eq_of_deviceId_eq (db : Db) {row other : DeviceRow} (hrow : row ∈ db.devices.rows)
    (hother : other ∈ db.devices.rows) (h : row.deviceId = other.deviceId) : row = other :=
  List.inj_on_of_nodup_map db.unique.devices hrow hother h

/-- A device id belongs to a single row. -/
theorem Tables.Unique.filter_deviceId {t : Tables} (h : t.Unique) {row : DeviceRow}
    (hrow : row ∈ t.devices.rows) : t.devices.rows.filter (·.deviceId = row.deviceId) = [row] := by
  refine List.perm_singleton.mp ((List.perm_ext_iff_of_nodup
    (t.devices.nodup_rows.filter _) (List.nodup_singleton row)).mpr fun other ↦ ?_)
  rw [List.mem_filter, decide_eq_true_eq, List.mem_singleton]
  exact ⟨fun hother ↦ List.inj_on_of_nodup_map h.devices hother.1 hrow hother.2,
    fun heq ↦ by simp [heq, hrow]⟩

theorem Tables.mem_deviceIds {t : Tables} {deviceId : Uuid} :
    deviceId ∈ t.deviceIds ↔ ∃ row ∈ t.devices.rows, row.deviceId = deviceId := by
  simp [deviceIds]

end PhoneBridge.Storage
