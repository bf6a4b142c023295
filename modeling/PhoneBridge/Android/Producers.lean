import PhoneBridge.Android.PairingMachine

/-!
# The producers of the phone's messages

What the notification listener, the SMS receiver and the call controller send when the system calls
them: `NotificationRelayService.kt`, `SmsReceiver.kt` and `CallController.kt`.
-/

namespace PhoneBridge.Android

open Library Proto

/-! ## Notifications -/

/-- The parts of a notification that are relayed; a missing extra is `none`. -/
structure NotificationContent where
  title : Option String
  text : Option String
  bigText : Option String
  category : Option String

/-- A notification with its place in the status bar. -/
structure StatusBarNotification where
  key : String
  packageName : String
  postTime : Int64
  notification : Option NotificationContent

namespace NotificationRelayService

variable (store : IdentityStore)

/-- `onNotificationPosted`; the label of an app is looked up by the package manager. -/
def onNotificationPosted (freshId : Uuid) (appLabelFor : String → String)
    (sbn : StatusBarNotification) : Option Envelope :=
  sbn.notification.map fun n ↦
    let payload : NotificationReceivedPayload := {
      id := sbn.key
      packageName := sbn.packageName
      appName := some (appLabelFor sbn.packageName)
      title := n.title.getD ""
      content := n.bigText.getD (n.text.getD "")
      postedAt := sbn.postTime
      isSensitive := false
      category := n.category }
    { id := freshId.toText
      ts := sbn.postTime
      type := MessageType.notifyReceived
      deviceId := store.deviceId
      payload := payload.encode }

/-- `onNotificationRemoved`: the key of the notification is the id of the dismissal. -/
def onNotificationRemoved (draws : Draws) (sbn : StatusBarNotification) : Envelope :=
  draws.envelope MessageType.notifyDismissed store.deviceId
    (NotificationDismissedPayload.encode { id := sbn.key })

end NotificationRelayService

/-! ## SMS -/

/-- One part of an SMS as the telephony stack has parsed it. -/
structure SmsMessage where
  displayOriginatingAddress : Option String
  displayMessageBody : Option String
  timestampMillis : Int64

/-- The parts of a message become one envelope, sent by the first part's address. -/
def buildSmsReceivedEnvelope (messageId freshId : Uuid) (parts : List (Option SmsMessage))
    (ourDeviceId : String) : Option Envelope :=
  let real := parts.filterMap id
  real.head?.bind fun first ↦
    first.displayOriginatingAddress.map fun sender ↦
      let body := String.join (real.map fun part ↦ part.displayMessageBody.getD "")
      let receivedAt := first.timestampMillis
      let payload : SmsReceivedPayload := {
        id := messageId.toText
        address := sender
        body
        receivedAt
        simSlot := none
        subscriptionId := none }
      { id := freshId.toText
        ts := receivedAt
        type := MessageType.smsReceived
        deviceId := ourDeviceId
        payload := payload.encode }

/-! ## Calls -/

namespace CallController

/-- The telephony manager's constants; an unknown state counts as idle. -/
def stateKind (state : Int32) : CallStateKind :=
  if state = 1 then .ringing else if state = 2 then .offhook else .idle

/-- `sendState`. -/
def sendState (store : IdentityStore) (draws : Draws) (state : Int32)
    (phoneNumber : Option String) : Envelope :=
  draws.envelope MessageType.callState store.deviceId
    (CallStatePayload.encode {
      state := stateKind state
      phoneNumber
      callId := none
      contactName := none
      simSlot := none })

end CallController

end PhoneBridge.Android
