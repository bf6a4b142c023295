import PhoneBridge.MessageCenter.DisplayBus
import PhoneBridge.MessageCenter.Rest

/-!
# The actions of a display

`display_ws.rs`: what the message-center does with an action that the user has chosen on a display.
-/

namespace PhoneBridge.MessageCenter

open Library Proto Net Storage

def publish (event : DisplayEvent) (center : Center DeskStore) : Center DeskStore :=
  { center with store := { center.store with
      displayBus := center.store.displayBus ++ [event] } }

/-- The event that tells the displays what has become of the action. -/
def resultEvent (action : DisplayAction) (ok : Bool) (code message : Option String) (now : Int64) :
    DisplayEvent :=
  let mergedMessage :=
    match code, message with
    | some code, some message => some s!"{code}: {message}"
    | some code, none => some code
    | none, message => message
  let result : ActionResultEvent := {
    kind := "action.result"
    requestEnvelopeId := action.envelopeId
    deviceId := action.deviceId
    actionKind := action.kind
    ok
    message := mergedMessage
    timestamp := now }
  { kind := "action.result"
    deviceId := action.deviceId
    envelopeId := action.envelopeId
    timestamp := now
    payload := result.toValue
    summary := .null }

def offlineEvent (action : DisplayAction) (now : Int64) : DisplayEvent where
  kind := "phone.offline"
  deviceId := action.deviceId
  envelopeId := action.envelopeId
  timestamp := if now < 0 then 0 else now
  payload := .obj [("action_kind", .str action.kind),
    ("message", .str "phone offline; action not delivered")]
  summary := .null

def publishActionResult (now : Int64) (action : DisplayAction) (ok : Bool)
    (code message : Option String) (center : Center DeskStore) : Center DeskStore :=
  publish (resultEvent action ok code message now) center

def publishPhoneOffline (now : Int64) (action : DisplayAction) (center : Center DeskStore) :
    Center DeskStore :=
  let offline := publish (offlineEvent action now) center
  let id := action.deviceId.toText
  publishActionResult now action false (some "phone_offline")
    (some s!"device {id} is not currently connected") offline

/-- Send an envelope to the phone and go on, or report the failure. -/
def sendToPhone (now : Int64) (action : DisplayAction) (env : Envelope) (center : Center DeskStore)
    (sent : Center DeskStore → Center DeskStore) : Center DeskStore :=
  match center.registry.trySend action.deviceId env with
  | .error e =>
    let reason := downstreamMessage e
    publishActionResult now action false (some "phone_error") (some s!"send: {reason}") center
  | .ok registry => sent { center with registry }

/-- The message that an action asks to be sent to the phone, if it asks for one. -/
def actionRequest (action : DisplayAction) : Option (MessageType × Json) :=
  match action.kind with
  | "sms.reply" =>
    (action.recipient.filter (· ≠ "")).bind fun recipient ↦
      (action.body.filter (· ≠ "")).map fun body ↦
        (.smsSendRequest, SmsSendRequest.toValue { recipient, body, subscriptionId := none })
  | "notification.dismiss" => some (.notificationDismissed,
      NotificationDismissed.toValue { id := action.envelopeId.toText })
  | "call.answer" => some (.callAnswerRequest, CallAnswerRequest.toValue {})
  | "call.end" => some (.callEndRequest, CallEndRequest.toValue {})
  | _ => none

section Actions

variable (ctx : WsContext) (dbMessage : DbError → String) (draws : Draws) (action : DisplayAction)
  (center : Center DeskStore)

def doSmsReply : Center DeskStore :=
  match action.recipient.filter (· ≠ "") with
  | none =>
    publishActionResult draws.now action false (some "bad_request")
      (some "sms.reply requires `to`") center
  | some recipient =>
    match action.body.filter (· ≠ "") with
    | none =>
      publishActionResult draws.now action false (some "bad_request")
        (some "sms.reply requires `body`") center
    | some body =>
      let env := draws.envelope .smsSendRequest ctx.ourDeviceId
        (SmsSendRequest.toValue { recipient, body, subscriptionId := none })
      sendToPhone draws.now action env center fun sent ↦
        let db := warned sent.store.db (sent.store.db.insertAuditLog draws.now
          (some action.deviceId) "display.sms_reply" none)
        publishActionResult draws.now action true none none
          { sent with store := { sent.store with db } }

def doNotificationRead : Center DeskStore :=
  match center.store.db.markNotificationRead action.deviceId action.envelopeId.toText with
  | .error e =>
    let reason := dbMessage e
    publishActionResult draws.now action false (some "internal_error") (some s!"db: {reason}")
      center
  | .ok db =>
    publishActionResult draws.now action true none none
      { center with store := { center.store with db } }

/-- The envelope id goes to the phone as the id of the notification. -/
def doNotificationDismiss : Center DeskStore :=
  let env := draws.envelope .notificationDismissed ctx.ourDeviceId
    (NotificationDismissed.toValue { id := action.envelopeId.toText })
  sendToPhone draws.now action env center fun sent ↦
    let db := warned sent.store.db ((sent.store.db.dismissNotification action.deviceId
      action.envelopeId.toText).map Prod.snd)
    publishActionResult draws.now action true none none
      { sent with store := { sent.store with db } }

def doCallAnswer : Center DeskStore :=
  sendToPhone draws.now action
    (draws.envelope .callAnswerRequest ctx.ourDeviceId (CallAnswerRequest.toValue {})) center
    (publishActionResult draws.now action true none none)

def doCallEnd : Center DeskStore :=
  sendToPhone draws.now action
    (draws.envelope .callEndRequest ctx.ourDeviceId (CallEndRequest.toValue {})) center
    (publishActionResult draws.now action true none none)

/-- Process a single action from the client. -/
def handleDisplayAction : Center DeskStore :=
  if ¬ center.registry.isConnected action.deviceId then
    publishPhoneOffline draws.now action center
  else
    match action.kind with
    | "sms.reply" => doSmsReply ctx draws action center
    | "notification.read" => doNotificationRead dbMessage draws action center
    | "notification.dismiss" => doNotificationDismiss ctx draws action center
    | "call.answer" => doCallAnswer ctx draws action center
    | "call.end" => doCallEnd ctx draws action center
    | other =>
      publishActionResult draws.now action false (some "bad_request")
        (some s!"unknown action kind: {other}") center

end Actions

end PhoneBridge.MessageCenter
