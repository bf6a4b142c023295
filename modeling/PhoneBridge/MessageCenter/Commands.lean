import PhoneBridge.MessageCenter.DisplayWs

/-!
# The commands of the web console

The handlers of `rest.rs` that tell a phone to do something other than pairing: to dismiss a
notification, to send an SMS and to dial a number. The hello of the command-line phone in
`pair_cli.rs` stands at the end.
-/

namespace PhoneBridge.MessageCenter

open Library Proto Net Storage

def setDb (db : Db) (center : Center DeskStore) : Center DeskStore :=
  { center with store := { center.store with db } }

section Handlers

variable (ctx : WsContext) (dbMessage : DbError → String) (draws : Draws)

/-- The `notification.dismissed` for the row that has been marked. -/
def dismissedEnvelope (row : String) : Envelope :=
  draws.envelope .notificationDismissed ctx.ourDeviceId (NotificationDismissed.toValue { id := row })

/-- `POST /api/v1/notifications/{device_id}/{id}/dismiss`. -/
def dismissNotification (deviceId : Uuid) (id : String) (center : Center DeskStore) :
    Response × Center DeskStore :=
  match center.store.db.dismissNotification deviceId id with
  | .error e =>
    let reason := dbMessage e
    ({ status := 500, text := s!"db: {reason}" }, center)
  | .ok (none, db) => ({ status := 404, text := "notification not found" }, setDb db center)
  | .ok (some row, db) =>
    -- a failed broadcast is only logged
    let registry :=
      (center.registry.trySend deviceId (dismissedEnvelope ctx draws row)).toOption.getD
        center.registry
    ({ status := 200, text := "dismissed" }, { setDb db center with registry })

/-- The body of `POST /api/v1/sms`. -/
structure SendSmsRequest where
  deviceId : Uuid
  recipient : String
  body : String
  subscriptionId : Option Int32 := none

/-- The `sms.send.request`; its id is the id of the request. -/
def sendSmsEnvelope (requestId : Uuid) (req : SendSmsRequest) : Envelope :=
  { draws.envelope .smsSendRequest ctx.ourDeviceId (SmsSendRequest.toValue {
      recipient := req.recipient
      body := req.body
      subscriptionId := req.subscriptionId }) with
    id := requestId }

def sendError (e : DownstreamError) : Response :=
  let reason := downstreamMessage e
  { status := 503, text := s!"send: {reason}" }

/-- `POST /api/v1/sms` — send an SMS via the device. -/
def sendSms (requestId : Uuid) (req : SendSmsRequest) (center : Center DeskStore) :
    Response × Center DeskStore :=
  if ¬ center.registry.isConnected req.deviceId then
    ({ status := 409, text := "device not connected" }, center)
  else
    match center.registry.trySend req.deviceId (sendSmsEnvelope ctx draws requestId req) with
    | .error e => (sendError e, center)
    | .ok registry =>
      let row : SmsRow := {
        id := requestId.toText
        deviceId := req.deviceId
        simSlot := none
        phoneNumber := req.recipient
        body := req.body
        direction := "out"
        timestamp := draws.now }
      let db := warned center.store.db (center.store.db.insertSms row)
      ({ status := 202, text := "queued" }, { setDb db center with registry })

/-- The body of `POST /api/v1/dial`. -/
structure DialRequest where
  deviceId : Uuid
  number : String

def dialEnvelope (number : String) : Envelope :=
  draws.envelope .callDialRequest ctx.ourDeviceId (CallDialRequest.toValue { number })

/-- `POST /api/v1/dial`. -/
def dial (req : DialRequest) (center : Center DeskStore) : Response × Center DeskStore :=
  if ¬ center.registry.isConnected req.deviceId then
    ({ status := 409, text := "device not connected" }, center)
  else
    match center.registry.trySend req.deviceId (dialEnvelope ctx draws req.number) with
    | .error e => (sendError e, center)
    | .ok registry =>
      let number := req.number
      let db := warned center.store.db (center.store.db.insertAuditLog draws.now
        (some req.deviceId) "call.dial" (some s!"number={number}"))
      ({ status := 202, text := "dialing" }, { setDb db center with registry })

end Handlers

/-- The hello of the command-line phone. -/
def pairCliHello (draws : Draws) (deviceId : Uuid) (name publicKeyB64 : String) : Envelope :=
  draws.envelope .deviceHello deviceId (DeviceHello.toValue {
    name
    deviceType := .android
    protocolVersion := 1
    pubkey := publicKeyB64
    port := none
    manufacturer := none
    model := none
    hardwareId := none })

end PhoneBridge.MessageCenter
