import PhoneBridge.Library.Lookup
import PhoneBridge.Storage.UpsertDevice

/-!
# The database as records of devices

What `pool.rs` keeps, without tables: one record for each device with everything that belongs to it,
and an audit log. The statements on tables with keys, constraints and cascades do what the
operations on records do, and fail where these fail.
-/

namespace PhoneBridge.Storage

open Library

/-! ## Records -/

/-- A device without its id. -/
structure Device where
  name : String
  publicKey : String
  lastSeen : Int64
  paired : Bool
  hardwareId : Option String

def DeviceRow.device (d : DeviceRow) : Device where
  name := d.name
  publicKey := d.publicKey
  lastSeen := d.lastSeen
  paired := d.paired
  hardwareId := d.hardwareId

/-- What a hello without a known phone leaves of the device that had its id. -/
def Device.mergedWith (d old : Device) : Device :=
  { d with paired := old.paired, hardwareId := d.hardwareId.or old.hardwareId }

structure Pairing where
  certPem : String
  certFingerprint : String
  pairedAt : Int64

/-- What is kept for a device; calls are without their numbers, oldest first. -/
structure DeviceRecord where
  device : Device
  pairing : Option Pairing := none
  notifications : KeyMap String NotificationRow := .empty
  smsMessages : KeyMap String SmsRow := .empty
  calls : List CallRow := []

/-- A record is bare when it has nothing but the device. -/
def DeviceRecord.IsBare (record : DeviceRecord) : Prop := record = { device := record.device }

/-- The records by device id, and the audit log without its numbers, oldest first. -/
@[ext]
structure Records where
  devices : KeyMap Uuid DeviceRecord
  auditLog : List AuditLogRow

def Records.empty : Records where
  devices := .empty
  auditLog := []

namespace Records

variable (r : Records)

/-- Change the record of a known device. -/
def change (deviceId : Uuid) (f : DeviceRecord → DeviceRecord) : Records :=
  { r with devices := r.devices.set deviceId ((r.devices.get deviceId).map f) }

/-- Only a known device can be given something. -/
def give (deviceId : Uuid) (f : DeviceRecord → DeviceRecord) : Except DbError Records :=
  if r.devices.contains deviceId then .ok (r.change deviceId f) else .error .foreignKey

open Classical in
/-- The device that is the same phone. -/
noncomputable def samePhone (d : Device) : Option Uuid :=
  if h : ∃ deviceId record, r.devices.get deviceId = some record ∧ d.hardwareId ≠ none ∧
      d.hardwareId = record.device.hardwareId then
    some h.choose
  else none

open Classical in
/-- A known phone may come with a new device id, but only while it has nothing but its device. -/
noncomputable def upsertDevice (deviceId : Uuid) (d : Device) : Except DbError Records :=
  match r.samePhone d with
  | some old =>
    if old = deviceId then .ok (r.change deviceId ({ · with device := d }))
    else if r.devices.contains deviceId then .error .unique
    else if ∃ record, r.devices.get old = some record ∧ ¬ record.IsBare then .error .foreignKey
    else .ok { r with devices := (r.devices.remove old).insert deviceId { device := d } }
  | none =>
    if r.devices.contains deviceId then
      .ok (r.change deviceId fun record ↦
        { record with device := d.mergedWith record.device })
    else .ok { r with devices := r.devices.insert deviceId { device := d } }

end Records

/-! ## The statements -/

/-- `UPDATE devices SET paired = 1 WHERE device_id = ?1`. -/
def Db.markDevicePaired (db : Db) (deviceId : Uuid) : Except DbError Db :=
  Tables.commit { db.toTables with
    devices := db.devices.update (·.deviceId = deviceId) (fun old ↦ { old with paired := true })
      fun _ ↦ rfl }

/-- The statements of `pool.rs` that write. -/
inductive Statement
  | upsertDevice (d : DeviceRow)
  | removeDevice (deviceId : Uuid)
  | touchDevice (deviceId : Uuid) (lastSeen : Int64)
  | insertPairing (deviceId : Uuid) (certPem certFingerprint : String) (pairedAt : Int64)
  | markDevicePaired (deviceId : Uuid)
  | insertNotification (n : NotificationRow)
  | markNotificationRead (deviceId : Uuid) (notificationId : String)
  | dismissNotification (deviceId : Uuid) (notificationId : String)
  | insertSms (s : SmsRow)
  | insertCall (c : CallRow)
  | insertAuditLog (timestamp : Int64) (deviceId : Option Uuid) (event : String)
      (detail : Option String)

namespace Statement

/-- Run a statement; the answer of a dismissal is the id of the row. -/
def run (db : Db) : Statement → Except DbError (Option String × Db)
  | .upsertDevice d => (none, ·) <$> db.upsertDevice d
  | .removeDevice deviceId => (none, ·) <$> db.removeDevice deviceId
  | .touchDevice deviceId lastSeen => (none, ·) <$> db.touchDevice deviceId lastSeen
  | .insertPairing deviceId certPem certFingerprint pairedAt =>
    (none, ·) <$> db.insertPairing deviceId certPem certFingerprint pairedAt
  | .markDevicePaired deviceId => (none, ·) <$> db.markDevicePaired deviceId
  | .insertNotification n => (none, ·) <$> db.insertNotification n
  | .markNotificationRead deviceId notificationId =>
    (none, ·) <$> db.markNotificationRead deviceId notificationId
  | .dismissNotification deviceId notificationId => db.dismissNotification deviceId notificationId
  | .insertSms s => (none, ·) <$> db.insertSms s
  | .insertCall c => (fun result ↦ (none, result.2)) <$> db.insertCall c
  | .insertAuditLog timestamp deviceId event detail =>
    (none, ·) <$> db.insertAuditLog timestamp deviceId event detail

def markRead (notificationId : String) (record : DeviceRecord) : DeviceRecord :=
  { record with
    notifications := record.notifications.set notificationId
      ((record.notifications.get notificationId).map fun row ↦ { row with read := true }) }

/-- The same statement on records. -/
noncomputable def apply (r : Records) : Statement → Except DbError (Option String × Records)
  | .upsertDevice d => (none, ·) <$> r.upsertDevice d.deviceId d.device
  | .removeDevice deviceId => .ok (none, { r with devices := r.devices.remove deviceId })
  | .touchDevice deviceId lastSeen =>
    .ok (none, r.change deviceId fun record ↦
      { record with device := { record.device with lastSeen } })
  | .insertPairing deviceId certPem certFingerprint pairedAt =>
    (none, ·) <$> r.give deviceId fun record ↦
      { record with pairing := some { certPem, certFingerprint, pairedAt } }
  | .markDevicePaired deviceId =>
    .ok (none, r.change deviceId fun record ↦
      { record with device := { record.device with paired := true } })
  | .insertNotification n =>
    (none, ·) <$> r.give n.deviceId fun record ↦
      { record with notifications := record.notifications.insert n.id n }
  | .markNotificationRead deviceId notificationId =>
    .ok (none, r.change deviceId (markRead notificationId))
  | .dismissNotification deviceId notificationId =>
    .ok (((r.devices.get deviceId).bind (·.notifications.get notificationId)).map (·.id),
      r.change deviceId (markRead notificationId))
  | .insertSms s =>
    (none, ·) <$> r.give s.deviceId fun record ↦
      { record with smsMessages := record.smsMessages.insert s.id s }
  | .insertCall c =>
    (none, ·) <$> r.give c.deviceId fun record ↦
      { record with calls := record.calls ++ [{ c with id := 0 }] }
  | .insertAuditLog timestamp deviceId event detail =>
    .ok (none, { r with
      auditLog := r.auditLog ++ [{ id := 0, timestamp, deviceId, event, detail }] })

end Statement

/-! ## The records of the tables -/

namespace Tables

variable (t : Tables)

/-! What the tables hold for a device id. -/

def pairingOf (deviceId : Uuid) : Option Pairing :=
  (lookupBy (·.deviceId) t.pairings.rows deviceId).map fun row ↦ {
    certPem := row.certPem
    certFingerprint := row.certFingerprint
    pairedAt := row.pairedAt }

def notificationsById (deviceId : Uuid) : KeyMap String NotificationRow :=
  shelf (fun row ↦ (row.id, row.deviceId)) t.notifications.rows deviceId

def smsById (deviceId : Uuid) : KeyMap String SmsRow :=
  shelf (fun row ↦ (row.id, row.deviceId)) t.smsMessages.rows deviceId

def callsOf (deviceId : Uuid) : List CallRow :=
  (t.calls.rows.filter (·.deviceId = deviceId)).map fun row ↦ { row with id := 0 }

def recordOf (deviceId : Uuid) (row : DeviceRow) : DeviceRecord where
  device := row.device
  pairing := t.pairingOf deviceId
  notifications := t.notificationsById deviceId
  smsMessages := t.smsById deviceId
  calls := t.callsOf deviceId

def records : Records where
  devices := fun deviceId ↦
    (lookupBy (·.deviceId) t.devices.rows deviceId).map (t.recordOf deviceId)
  auditLog := t.auditLog.rows.map fun row ↦ { row with id := 0 }

/-- No session is ever written, and no two devices are the same phone. -/
structure Regular : Prop where
  sessions : t.sessions.rows = []
  samePhone : ∀ row ∈ t.devices.rows, ∀ other ∈ t.devices.rows, SameHardware row other → row = other

end Tables

end PhoneBridge.Storage
