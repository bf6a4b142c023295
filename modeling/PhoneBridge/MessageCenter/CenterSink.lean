import PhoneBridge.Net.Connection
import PhoneBridge.Storage.Pool

/-!
# The sink of the message-center

`center_sink.rs`: every event of a phone is written to the database, and hellos, unpairings and
disconnects to the audit log. A statement that fails is only logged.
-/

namespace PhoneBridge.MessageCenter

open Library Proto Net Storage

/-- The database after a statement whose failure is only logged. -/
def warned (db : Db) (result : Except DbError Db) : Db := result.toOption.getD db

/-- Unix epoch seconds, zero for a clock before the epoch. -/
def epochSeconds (now : Int64) : Int64 := if now < 0 then 0 else now / 1000

namespace CenterSink

variable (stamp : Stamp) (deviceId : Uuid) (db : Db)

def audit (event : String) (detail : Option String) : Db :=
  warned db (db.insertAuditLog stamp.now (some deviceId) event detail)

def touchDevice : Db := warned db (db.touchDevice deviceId (epochSeconds stamp.now))

def notificationRow (env : NotificationReceived) : NotificationRow where
  id := env.id
  deviceId
  packageName := env.package
  appName := env.appName
  title := env.title
  content := env.content
  postedAt := env.postedAt
  isSensitive := env.isSensitive
  category := env.category
  read := false

def onNotification (env : NotificationReceived) : Db :=
  warned db (db.insertNotification (notificationRow deviceId env))

def onNotificationDismissed (env : NotificationDismissed) : Db :=
  warned db (db.markNotificationRead deviceId env.id)

/-- A listed message is stored like a received one. -/
def smsRow (env : SmsReceived) : SmsRow where
  id := env.id
  deviceId
  simSlot := env.simSlot
  phoneNumber := env.address
  body := env.body
  direction := "in"
  timestamp := env.receivedAt

def onSmsReceived (env : SmsReceived) : Db := warned db (db.insertSms (smsRow deviceId env))

def insertCall (row : CallRow) (db : Db) : Db := warned db ((db.insertCall row).map Prod.snd)

def callStateText : CallStateKind → String
  | .idle => "idle"
  | .ringing => "ringing"
  | .offhook => "offhook"

def callStateRow (env : CallState) : CallRow where
  id := 0
  deviceId
  phoneNumber := env.phoneNumber.getD ""
  contactName := env.contactName
  state := callStateText env.state
  startedAt := stamp.now
  endedAt := none
  direction := "incoming"
  durationSecs := none
  simSlot := env.simSlot

def onCallState (env : CallState) : Db := insertCall (callStateRow stamp deviceId env) db

def callIncomingRow (env : CallIncoming) : CallRow where
  id := 0
  deviceId
  phoneNumber := env.phoneNumber
  contactName := env.contactName
  state := "ringing"
  startedAt := stamp.now
  endedAt := none
  direction := "incoming"
  durationSecs := none
  simSlot := env.simSlot

def onCallIncoming (env : CallIncoming) : Db := insertCall (callIncomingRow stamp deviceId env) db

def callDirectionText : CallDirection → String
  | .incoming => "incoming"
  | .outgoing => "outgoing"
  | .missed => "missed"

def callHistoryRow (entry : CallHistoryEntry) : CallRow where
  id := 0
  deviceId
  phoneNumber := entry.phoneNumber
  contactName := entry.contactName
  state := "ended"
  startedAt := entry.startedAt
  endedAt := entry.durationSeconds.map fun seconds ↦ entry.startedAt + seconds.toUInt64.toInt64 * 1000
  direction := callDirectionText entry.direction
  durationSecs := entry.durationSeconds.map fun seconds ↦ seconds.toUInt64.toInt64
  simSlot := entry.simSlot

def onCallHistory (env : CallHistory) : Db :=
  env.entries.foldl (fun db entry ↦ insertCall (callHistoryRow deviceId entry) db) db

def onSmsListResult (env : SmsListResult) : Db :=
  env.messages.foldl (fun db message ↦ onSmsReceived deviceId db message) db

def helloRow (env : DeviceHello) : DeviceRow where
  id := 0
  name := env.name
  deviceId
  publicKey := env.pubkey
  lastSeen := epochSeconds stamp.now
  paired := false
  hardwareId := env.hardwareId

def onHello (env : DeviceHello) : Db :=
  let upserted := warned db (db.upsertDevice (helloRow stamp deviceId env))
  audit stamp deviceId (touchDevice stamp deviceId upserted) "ws.connected" none

def onUnpair (env : Unpair) : Db :=
  let audited := audit stamp deviceId db "device.unpair" (some (env.reason.getD ""))
  warned audited (audited.removeDevice deviceId)

def onDisconnect : Db := audit stamp deviceId (touchDevice stamp deviceId db) "ws.closed" none

end CenterSink

/-- The sink; a send result is only shown, not stored. -/
def centerSink : WsSink Db := fun stamp call db ↦
  match call with
  | .onNotification _ deviceId env => CenterSink.onNotification deviceId db env
  | .onNotificationDismissed _ deviceId env => CenterSink.onNotificationDismissed deviceId db env
  | .onSmsReceived _ deviceId env => CenterSink.onSmsReceived deviceId db env
  | .onSmsSendResult _ _ _ => db
  | .onCallState _ deviceId env => CenterSink.onCallState stamp deviceId db env
  | .onCallIncoming _ deviceId env => CenterSink.onCallIncoming stamp deviceId db env
  | .onCallHistory _ deviceId env => CenterSink.onCallHistory deviceId db env
  | .onSmsListResult _ deviceId env => CenterSink.onSmsListResult deviceId db env
  | .onHello _ deviceId env => CenterSink.onHello stamp deviceId db env
  | .onUnpair _ deviceId env => CenterSink.onUnpair stamp deviceId db env
  | .onDisconnect deviceId => CenterSink.onDisconnect stamp deviceId db

end PhoneBridge.MessageCenter
