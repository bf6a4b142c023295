import PhoneBridge.Storage.Schema

/-!
# The queries

The statements of `pool.rs` that write. A statement computes new tables and commits them.
-/

namespace PhoneBridge.Storage

open Library

/-! ## devices -/

namespace Tables

variable (t : Tables)

/-- `UPDATE devices SET … WHERE id = ?1`. -/
def refreshDevice (id : Nat) (d : DeviceRow) : Tables :=
  { t with devices := t.devices.update (·.id = id) (fun old ↦ {
      id := old.id
      name := d.name
      deviceId := d.deviceId
      publicKey := d.publicKey
      lastSeen := d.lastSeen
      paired := d.paired
      hardwareId := d.hardwareId }) fun _ ↦ rfl }

/-- `INSERT … ON CONFLICT(device_id) DO UPDATE`: where the device is known, `paired` stays, and the
number that was tried is used up. -/
def insertOrUpdateDevice (d : DeviceRow) : Tables :=
  if d.deviceId ∈ t.deviceIds then
    { t with devices := (t.devices.update (·.deviceId = d.deviceId) (fun old ↦ { old with
        name := d.name
        publicKey := d.publicKey
        lastSeen := d.lastSeen
        hardwareId := d.hardwareId.or old.hardwareId }) fun _ ↦ rfl).skip }
  else { t with devices := t.devices.insert (fun id ↦ { d with id }) fun _ ↦ rfl }

/-- `DELETE FROM devices WHERE device_id = ?1`; `ON DELETE CASCADE` takes the child rows along. -/
def deleteDevice (deviceId : Uuid) : Tables :=
  { t with
    devices := t.devices.delete (·.deviceId = deviceId)
    pairings := t.pairings.delete (·.deviceId = deviceId)
    sessions := t.sessions.delete (·.deviceId = deviceId)
    notifications := t.notifications.delete (·.deviceId = deviceId)
    smsMessages := t.smsMessages.delete (·.deviceId = deviceId)
    calls := t.calls.delete (·.deviceId = deviceId) }

end Tables

namespace Db

variable (db : Db)

/-- `SELECT … FROM devices WHERE hardware_id = ?1`: the first row with the incoming hardware id. -/
def findHardware (d : DeviceRow) : Option DeviceRow :=
  d.hardwareId.bind fun hw ↦ db.devices.rows.find? (·.hardwareId = some hw)

/-- Insert or update a device row. -/
def upsertDevice (d : DeviceRow) : Except DbError Db :=
  match db.findHardware d with
  | some row => (db.refreshDevice row.id d).commit
  | none => (db.insertOrUpdateDevice d).commit

/-- Remove a device by `device_id`. -/
def removeDevice (deviceId : Uuid) : Except DbError Db := (db.deleteDevice deviceId).commit

/-- Update only the `last_seen` column. -/
def touchDevice (deviceId : Uuid) (lastSeen : Int64) : Except DbError Db :=
  Tables.commit { db.toTables with
    devices := db.devices.update (·.deviceId = deviceId) (fun old ↦ { old with lastSeen })
      fun _ ↦ rfl }

/-! ## pairings -/

/-- Insert a pairing row. -/
def insertPairing (deviceId : Uuid) (certPem certFingerprint : String) (pairedAt : Int64) :
    Except DbError Db :=
  if deviceId ∈ db.pairings.rows.map (·.deviceId) then
    Tables.commit { db.toTables with
      pairings := (db.pairings.update (·.deviceId = deviceId) (fun old ↦ { old with
        certPem, certFingerprint, pairedAt }) fun _ ↦ rfl).skip }
  else
    Tables.commit { db.toTables with
      pairings := db.pairings.insert (fun id ↦ {
        id, deviceId, certPem, certFingerprint, pairedAt }) fun _ ↦ rfl }

/-! ## notifications -/

/-- Insert a notification. -/
def insertNotification (n : NotificationRow) : Except DbError Db :=
  Tables.commit { db.toTables with notifications := db.notifications.insertOrReplace n }

/-- Mark a single notification as read. -/
def markNotificationRead (deviceId : Uuid) (notificationId : String) : Except DbError Db :=
  Tables.commit { db.toTables with
    notifications := db.notifications.update
      (fun row ↦ row.deviceId = deviceId ∧ row.id = notificationId)
      (fun old ↦ { old with read := true }) fun _ ↦ rfl }

/-- Mark a notification as dismissed. Returns the row's id, if there is such a row. -/
def dismissNotification (deviceId : Uuid) (notificationId : String) :
    Except DbError (Option String × Db) := do
  let after ← db.markNotificationRead deviceId notificationId
  let row := after.notifications.rows.find? fun row ↦
    row.deviceId = deviceId ∧ row.id = notificationId
  return (row.map (·.id), after)

/-! ## sms_messages -/

/-- Insert a SMS row. -/
def insertSms (s : SmsRow) : Except DbError Db :=
  Tables.commit { db.toTables with smsMessages := db.smsMessages.insertOrReplace s }

/-! ## calls -/

/-- Insert a call row. Returns the number of the row. -/
def insertCall (c : CallRow) : Except DbError (Nat × Db) := do
  let after ← Tables.commit { db.toTables with
    calls := db.calls.insert (fun id ↦ { c with id }) fun _ ↦ rfl }
  return (after.calls.last, after)

/-- List calls, newest first; calls that started at the same time stay in the order of their
numbers. -/
def listCalls (deviceId : Option Uuid) (limit : Nat) : List CallRow :=
  ((db.calls.rows.filter fun row ↦ deviceId.all (row.deviceId = ·)).mergeSort
    fun a b ↦ b.startedAt ≤ a.startedAt).take limit

/-! ## audit_log -/

/-- Append an audit log row. -/
def insertAuditLog (timestamp : Int64) (deviceId : Option Uuid) (event : String)
    (detail : Option String) : Except DbError Db :=
  Tables.commit { db.toTables with
    auditLog := db.auditLog.insert (fun id ↦ { id, timestamp, deviceId, event, detail })
      fun _ ↦ rfl }

end Db

end PhoneBridge.Storage
