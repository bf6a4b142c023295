import PhoneBridge.DeskDisplay.DisplayConfig
import PhoneBridge.DeskDisplay.Templates
import PhoneBridge.Library.KeyMap
import PhoneBridge.Proto.Display

/-!
# The Linux backend of the desktop display

`backends/linux.rs`: the toast that an event becomes, with the texts of the dictionary, the buttons
that it offers, and the action that a click on one of them stands for. The live `present` and the
shared translation (`translate_via_event`) each decode the payload of an event and dispatch on its
kind, and share the functions that make the toast.
-/

namespace PhoneBridge.DeskDisplay

open Library Proto

/-! ## Toasts -/

inductive MockToastKind
  | notification
  | sms
  | callIncoming
  | callOngoing
  | callEnded
  | actionResult
  | phoneOffline
  deriving DecidableEq, Repr

/-- A toast that the backend asks the desktop to display. -/
structure MockToast where
  kind : MockToastKind
  title : String
  body : String
  /-- action button pairs (key, label) in display order -/
  actions : List (String × String)
  envelopeId : Uuid
  deviceId : Uuid
  deriving DecidableEq, Repr

/-- What a click is looked up as: the event that a notification id stands for. -/
structure NotifRef where
  envelopeId : Uuid
  deviceId : Uuid
  kind : String
  address : Option String
  callId : Option String
  package : Option String
  notifId : Option String
  deriving DecidableEq, Repr

/-- A toast with its category, and the reference that is recorded once the toast has an id. -/
structure Presentation where
  toast : MockToast
  ref : NotifRef
  category : Option String
  deriving DecidableEq, Repr

theorem render_isSome (template : String) (vars : List (String × String)) :
    (render template vars).isSome = true := by
  rw [render_eq]
  rfl

/-- The text that `render` returns. -/
def renderText (template : String) (vars : List (String × String)) : String :=
  (render template vars).get (render_isSome template vars)

section Toasts

variable (t : String → String) (envelopeId deviceId : Uuid)

/-- The buttons of a toast. -/
def actionListFor (kind : String) : List (String × String) :=
  match kind with
  | "sms" | "notification" => [
    ("reply", t "notif.action.reply"),
    ("mark_read", t "notif.action.mark_read"),
    ("dismiss", t "notif.action.dismiss")]
  | "call" => [("answer", t "notif.action.answer"), ("hangup", t "notif.action.hangup")]
  | _ => []

/-! ## The toasts -/

def translateNotification (notif : NotificationReceived) : MockToast where
  kind := .notification
  title := notif.appName.getD notif.title
  body := if notif.isSensitive then "•••" else notif.content
  actions := actionListFor t "notification"
  envelopeId := envelopeId
  deviceId := deviceId

def translateSms (sms : SmsReceived) : MockToast where
  kind := .sms
  title := renderText (t "notif.sms.incoming") [("address", sms.address)]
  body := sms.body
  actions := actionListFor t "sms"
  envelopeId := envelopeId
  deviceId := deviceId

def translateCallIncoming (call : CallIncoming) : MockToast where
  kind := .callIncoming
  title := renderText (t "notif.call.incoming") [("number", call.phoneNumber)]
  body := call.contactName.getD ""
  actions := actionListFor t "call"
  envelopeId := envelopeId
  deviceId := deviceId

/-- Only a ringing or an ongoing call is shown. -/
def translateCallState (call : CallState) : Option MockToast :=
  if call.state ≠ .ringing ∧ call.state ≠ .offhook then none
  else
    let number := call.phoneNumber.getD ""
    some {
      kind := .callOngoing
      title :=
        if call.state = .offhook then t "notif.call.ongoing"
        else renderText (t "notif.call.incoming") [("number", number)]
      body := ""
      actions := actionListFor t "call"
      envelopeId
      deviceId }

def translateActionResult (payload : Json) : MockToast where
  kind := .actionResult
  title :=
    if ((payload.get "ok").bind Json.asBool).getD false then t "toast.action_sent"
    else renderText (t "toast.action_failed")
      [("message", ((payload.get "message").bind Json.asStr).getD "")]
  body := ""
  actions := []
  envelopeId := envelopeId
  deviceId := deviceId

def translatePhoneOffline (payload : Json) : MockToast where
  kind := .phoneOffline
  title := t "toast.phone_offline" ++ " (" ++
    ((payload.get "action_kind").bind Json.asStr).getD "" ++ ")"
  body := ""
  actions := []
  envelopeId := envelopeId
  deviceId := deviceId

/-! ## What is recorded -/

/-- A toast with the reference that `dispatch_toast` records for it. -/
def presentationOf (toast : MockToast) (kind : String)
    (package address callId notifId : Option String) (category : String) : Presentation where
  toast := toast
  ref := {
    envelopeId := toast.envelopeId, deviceId := toast.deviceId, kind, address, callId, package,
    notifId }
  category := some category

def presentNotification (notif : NotificationReceived) : Presentation :=
  presentationOf (translateNotification t envelopeId deviceId notif) "notification"
    (some notif.package) none none (some notif.id) "im"

def presentSms (sms : SmsReceived) : Presentation :=
  presentationOf (translateSms t envelopeId deviceId sms) "sms" none (some sms.address) none none
    "im"

def presentCallIncoming (call : CallIncoming) : Presentation :=
  presentationOf (translateCallIncoming t envelopeId deviceId call) "call" none
    (some call.phoneNumber) none none "call"

def presentCallState (call : CallState) : Option Presentation :=
  (translateCallState t envelopeId deviceId call).map fun toast ↦
    presentationOf toast "call" none (some (call.phoneNumber.getD "")) call.callId none "call"

def presentActionResult (payload : Json) : Presentation :=
  presentationOf (translateActionResult t envelopeId deviceId payload) "action_result" none none none
    none "transfer.complete"

def presentPhoneOffline (payload : Json) : Presentation :=
  presentationOf (translatePhoneOffline t envelopeId deviceId payload) "phone_offline" none none none
    none "transfer.error"

end Toasts

/-- What the live `present` shows an event as, before it names a payload that it cannot read; other
kinds are ignored. -/
def present (t : String → String) (event : DisplayEvent) : Except SerdeError (Option Presentation) :=
  match event.kind with
  | "notification.received" => do
    let n ← NotificationReceived.parse event.payload
    return some (presentNotification t event.envelopeId event.deviceId n)
  | "sms.received" => do
    let s ← SmsReceived.parse event.payload
    return some (presentSms t event.envelopeId event.deviceId s)
  | "call.incoming" => do
    let c ← CallIncoming.parse event.payload
    return some (presentCallIncoming t event.envelopeId event.deviceId c)
  | "call.state" => do
    let c ← CallState.parse event.payload
    return presentCallState t event.envelopeId event.deviceId c
  | "action.result" =>
    return some (presentActionResult t event.envelopeId event.deviceId event.payload)
  | "phone.offline" =>
    return some (presentPhoneOffline t event.envelopeId event.deviceId event.payload)
  | "device.hello" | "device.unpair" | "device.pair.request" | "device.pair.confirm" => return none
  | _ => return none

/-- A payload of an event of this kind. -/
def fromValue {α : Type} (display : SerdeError → String) (kind : String) (parse : Serde.Decoder α)
    (payload : Json) : Except DisplayError α :=
  (parse payload).mapError fun e ↦ .protocol (kind ++ ": " ++ display e)

/-- Translate a raw event to the toast that the surface renders; `none` for events that are
deliberately ignored. -/
def translateViaEvent (display : SerdeError → String) (t : String → String) (event : DisplayEvent) :
    Except DisplayError (Option MockToast) :=
  match event.kind with
  | "notification.received" => do
    let n ← fromValue display "notification.received" NotificationReceived.parse event.payload
    return some (translateNotification t event.envelopeId event.deviceId n)
  | "sms.received" => do
    let s ← fromValue display "sms.received" SmsReceived.parse event.payload
    return some (translateSms t event.envelopeId event.deviceId s)
  | "call.incoming" => do
    let c ← fromValue display "call.incoming" CallIncoming.parse event.payload
    return some (translateCallIncoming t event.envelopeId event.deviceId c)
  | "call.state" => do
    let c ← fromValue display "call.state" CallState.parse event.payload
    return translateCallState t event.envelopeId event.deviceId c
  | "action.result" =>
    return some (translateActionResult t event.envelopeId event.deviceId event.payload)
  | "phone.offline" =>
    return some (translatePhoneOffline t event.envelopeId event.deviceId event.payload)
  | _ => return none

/-- Whatever the kind of a toast, its buttons are among five. -/
theorem keys_of_actionListFor {t : String → String} {kind key : String}
    (h : key ∈ (actionListFor t kind).map Prod.fst) :
    key ∈ ["reply", "mark_read", "dismiss", "answer", "hangup"] := by
  have hmessage : ["reply", "mark_read", "dismiss"] ⊆
      ["reply", "mark_read", "dismiss", "answer", "hangup"] := by decide
  have hcall : ["answer", "hangup"] ⊆ ["reply", "mark_read", "dismiss", "answer", "hangup"] := by
    decide
  unfold actionListFor at h
  split at h
  · exact hmessage h
  · exact hmessage h
  · exact hcall h
  · cases h

/-! ## Clicks -/

/-- The action that a button stands for. -/
def actionForKey (actionKey : String) (r : NotifRef) : Option DisplayAction :=
  let action (kind : String) (recipient callId : Option String) : DisplayAction := {
    kind, envelopeId := r.envelopeId, deviceId := r.deviceId, recipient, body := none, callId }
  match actionKey with
  | "reply" => some (action "sms.reply" r.address none)
  | "mark_read" => some (action "notification.read" none none)
  | "dismiss" => some (action "notification.dismiss" none none)
  | "answer" => some (action "call.answer" none r.callId)
  | "hangup" => some (action "call.end" none r.callId)
  | _ => none

/-- The action that the consumer of `ActionInvoked` sends for a click, if it sends one: the toast must
be known, and a reply needs a text. -/
def actionInvoked (map : KeyMap UInt32 NotifRef) (notifId : UInt32) (actionKey : String)
    (collectReplyText : Except String String) : Option DisplayAction :=
  (map.get notifId).bind fun r ↦
    (actionForKey actionKey r).bind fun action ↦
      if action.kind = "sms.reply" ∧ action.body = none then
        match collectReplyText with
        | .ok text => if text ≠ "" then some { action with body := some text } else none
        | .error _ => none
      else some action

/-- The consumer understands every button that a toast can offer. -/
theorem actionForKey_of_offered {t : String → String} {kind actionKey : String} (r : NotifRef)
    (h : actionKey ∈ (actionListFor t kind).map Prod.fst) :
    ∃ action, actionForKey actionKey r = some action ∧ action.envelopeId = r.envelopeId ∧
      action.deviceId = r.deviceId := by
  unfold actionListFor at h
  split at h
  · simp only [List.map_cons, List.map_nil, List.mem_cons, List.not_mem_nil, or_false] at h
    rcases h with rfl | rfl | rfl <;> exact ⟨_, rfl, rfl, rfl⟩
  · simp only [List.map_cons, List.map_nil, List.mem_cons, List.not_mem_nil, or_false] at h
    rcases h with rfl | rfl | rfl <;> exact ⟨_, rfl, rfl, rfl⟩
  · simp only [List.map_cons, List.map_nil, List.mem_cons, List.not_mem_nil, or_false] at h
    rcases h with rfl | rfl <;> exact ⟨_, rfl, rfl, rfl⟩
  · cases h

/-- A click on a recorded toast is turned into an action with the toast's ids, a reply with a text
included. -/
theorem actionInvoked_of_offered {t : String → String} {kind actionKey text : String} {r : NotifRef}
    {map : KeyMap UInt32 NotifRef} {notifId : UInt32} (hmap : map.get notifId = some r)
    (hkey : actionKey ∈ (actionListFor t kind).map Prod.fst) (htext : text ≠ "") :
    ∃ action, actionInvoked map notifId actionKey (.ok text) = some action ∧
      action.envelopeId = r.envelopeId ∧ action.deviceId = r.deviceId := by
  obtain ⟨action, haction, henvelope, hdevice⟩ := actionForKey_of_offered r hkey
  by_cases hreply : action.kind = "sms.reply" ∧ action.body = none
  · exact ⟨{ action with body := some text },
      by simp [actionInvoked, hmap, haction, hreply, htext], henvelope, hdevice⟩
  · exact ⟨action, by simp [actionInvoked, hmap, haction, hreply], henvelope, hdevice⟩

end PhoneBridge.DeskDisplay
