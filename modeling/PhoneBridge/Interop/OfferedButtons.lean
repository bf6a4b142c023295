import PhoneBridge.DeskDisplay.LinuxBackend
import PhoneBridge.MessageCenter.BadRequests

/-!
# What the desktop offers and what the message-center takes

A button of a toast becomes an action with the reference recorded for the toast. The reference of an
SMS has an address, that of a notification has none, and both toasts offer a reply, which the
message-center takes with an address only.
-/

namespace PhoneBridge.Interop

open Library Proto MessageCenter DeskDisplay

/-- The action with the reply text that the user has entered, where a text is asked for. -/
def withReplyText (text : String) (action : DisplayAction) : DisplayAction :=
  if action.kind = "sms.reply" ∧ action.body = none then { action with body := some text }
  else action

/-- What the consumer of `ActionInvoked` sends for a click on a recorded toast. -/
theorem actionInvoked_eq_withReplyText {map : KeyMap UInt32 NotifRef} {notifId : UInt32}
    {r : NotifRef} (hmap : map.get notifId = some r) {key text : String} (htext : text ≠ "") :
    actionInvoked map notifId key (.ok text) = (actionForKey key r).map (withReplyText text) := by
  rw [actionInvoked, hmap, Option.bind_some]
  cases actionForKey key r with
  | none => rfl
  | some action =>
    simp only [Option.bind_some, Option.map_some, withReplyText]
    split <;> rfl

/-- Every button that is offered for the event stands for an action, and the message-center, with
the phone connected, never refuses the action as a bad request. -/
def ButtonsAccepted (ctx : Net.WsContext) (statementMessage : Storage.StatementError → String)
    (t : String → String) (event : DisplayEvent) : Prop :=
  ∀ p, present t event = .ok (some p) → ∀ key ∈ p.toast.actions.map Prod.fst,
    ∃ action, actionForKey key p.ref = some action ∧ ∀ text, text ≠ "" →
      DisplayTask.NeverBadRequest ctx statementMessage (withReplyText text action)

/-- The event is no notification that can be read, and if it is an SMS it has an address. -/
def Replyable (event : DisplayEvent) : Prop :=
  (event.kind = "notification.received" →
    ∀ n, NotificationReceived.parse event.payload ≠ .ok n) ∧
  (event.kind = "sms.received" →
    ∀ sms, SmsReceived.parse event.payload = .ok sms → sms.address ≠ "")

section Buttons

variable {t : String → String} {key text : String} (r : NotifRef)

/-- A reply is well-formed when the reference has an address. -/
theorem wellFormed_reply (htext : text ≠ "") :
    ∃ action, actionForKey "reply" r = some action ∧
      (DisplayTask.WellFormed (withReplyText text action) ↔ ∃ a, r.address = some a ∧ a ≠ "") := by
  refine ⟨_, rfl, ?_⟩
  have hbody : (some text).filter (· ≠ "") = some text := by simp [htext]
  simp only [DisplayTask.WellFormed, withReplyText, and_self, if_true, actionRequest, hbody]
  cases r.address with
  | none => simp
  | some a =>
    by_cases ha : a = "" <;> simp [ha, Option.filter]

/-- The other buttons always stand for a well-formed action. -/
theorem wellFormed_other (hkey : key ∈ ["mark_read", "dismiss", "answer", "hangup"]) :
    ∃ action, actionForKey key r = some action ∧
      ∀ text, DisplayTask.WellFormed (withReplyText text action) := by
  simp only [List.mem_cons, List.not_mem_nil, or_false] at hkey
  rcases hkey with rfl | rfl | rfl | rfl
  · exact ⟨_, rfl, fun _ ↦ .inl rfl⟩
  · exact ⟨_, rfl, fun _ ↦ .inr rfl⟩
  · exact ⟨_, rfl, fun _ ↦ .inr rfl⟩
  · exact ⟨_, rfl, fun _ ↦ .inr rfl⟩

/-- The buttons of a toast are accepted exactly when a reply among them has an address. -/
theorem accepted_iff (ctx : Net.WsContext)
    (statementMessage : Storage.StatementError → String) {keys : List String}
    (hkeys : ∀ key ∈ keys, key = "reply" ∨ key ∈ ["mark_read", "dismiss", "answer", "hangup"]) :
    (∀ key ∈ keys, ∃ action, actionForKey key r = some action ∧ ∀ text, text ≠ "" →
      DisplayTask.NeverBadRequest ctx statementMessage (withReplyText text action)) ↔
      ("reply" ∈ keys → ∃ a, r.address = some a ∧ a ≠ "") := by
  simp only [DisplayTask.neverBadRequest_iff]
  constructor
  · intro haccepted hreply
    have htext : "ok" ≠ "" := by decide
    obtain ⟨action, haction, hwell⟩ := haccepted "reply" hreply
    obtain ⟨reply, hkey, hiff⟩ := wellFormed_reply r htext
    rw [haction] at hkey
    cases hkey
    exact hiff.mp (hwell "ok" htext)
  · intro haddress key hkey
    rcases hkeys key hkey with rfl | hother
    · refine ⟨_, rfl, fun text htext ↦ ?_⟩
      obtain ⟨reply, hreply, hiff⟩ := wellFormed_reply r htext
      cases hreply
      exact hiff.mpr (haddress hkey)
    · obtain ⟨action, haction, hwell⟩ := wellFormed_other r hother
      exact ⟨action, haction, fun text _ ↦ hwell text⟩

end Buttons

/-- The message-center never refuses a button of the event's toast exactly when the toast is not
that of a notification, and an SMS has an address to reply to. -/
theorem offered_buttons_accepted_iff (ctx : Net.WsContext)
    (statementMessage : Storage.StatementError → String) (t : String → String)
    (event : DisplayEvent) :
    ButtonsAccepted ctx statementMessage t event ↔ Replyable event := by
  have hbuttons (kind : String) (r : NotifRef) :=
    accepted_iff r ctx statementMessage fun key (hkey : key ∈ (actionListFor t kind).map Prod.fst) ↦
      List.mem_cons.mp (keys_of_actionListFor hkey)
  unfold ButtonsAccepted present Replyable
  split
  next hkind =>
    cases NotificationReceived.parse event.payload with
    | error e => simp [bind, Except.bind, hkind]
    | ok n =>
      simp only [bind, Except.bind, pure, Except.pure, Except.ok.injEq, Option.some.injEq,
        forall_eq', hkind]
      refine (hbuttons "notification" _).trans ?_
      simp [actionListFor, presentNotification, presentationOf]
  next hkind =>
    cases SmsReceived.parse event.payload with
    | error e => simp [bind, Except.bind, hkind]
    | ok sms =>
      simp only [bind, Except.bind, pure, Except.pure, Except.ok.injEq, Option.some.injEq,
        forall_eq', hkind]
      refine (hbuttons "sms" _).trans ?_
      simp [actionListFor, presentSms, presentationOf]
  next hkind =>
    cases CallIncoming.parse event.payload with
    | error e => simp [bind, Except.bind, hkind]
    | ok call =>
      simp only [bind, Except.bind, pure, Except.pure, Except.ok.injEq, Option.some.injEq,
        forall_eq', hkind]
      refine (hbuttons "call" _).trans ?_
      simp [actionListFor]
  next hkind =>
    cases CallState.parse event.payload with
    | error e => simp [bind, Except.bind, hkind]
    | ok call =>
      simp only [bind, Except.bind, pure, Except.pure, Except.ok.injEq, hkind]
      unfold presentCallState translateCallState
      split
      · simp
      · simp only [Option.map_some, Option.some.injEq, forall_eq']
        refine (hbuttons "call" _).trans ?_
        simp [actionListFor]
  next hkind =>
    simp [hkind, pure, Except.pure, presentActionResult, presentationOf, translateActionResult]
  next hkind =>
    simp [hkind, pure, Except.pure, presentPhoneOffline, presentationOf, translatePhoneOffline]
  next hkind => simp [hkind, pure, Except.pure]
  next hkind => simp [hkind, pure, Except.pure]
  next hkind => simp [hkind, pure, Except.pure]
  next hkind => simp [hkind, pure, Except.pure]
  next hnotification hsms _ _ _ _ _ _ _ _ =>
    exact iff_of_true (by simp [pure, Except.pure]) ⟨fun hkind ↦ (hnotification hkind).elim,
      fun hkind ↦ (hsms hkind).elim⟩

/-- A notification of a chat. -/
def sampleChatEvent : DisplayEvent where
  kind := "notification.received"
  deviceId := ⟨1⟩
  envelopeId := ⟨17⟩
  timestamp := 1000
  payload := NotificationReceived.toValue {
    id := "17"
    package := "chat"
    appName := none
    title := "Ann"
    content := "Hello"
    postedAt := 1000
    isSensitive := false
    category := none }
  summary := .null

/-- Its toast offers a reply, and the reply has no address. -/
theorem offered_reply_is_refused : ¬ ∀ (ctx : Net.WsContext)
    (statementMessage : Storage.StatementError → String) (t : String → String)
    (event : DisplayEvent), ButtonsAccepted ctx statementMessage t event := by
  intro h
  have hshown : ∃ p, present id sampleChatEvent = .ok (some p) ∧
      p.toast.actions.map Prod.fst = ["reply", "mark_read", "dismiss"] ∧ p.ref.address = none :=
    ⟨_, rfl, rfl, rfl⟩
  obtain ⟨p, hpresent, hkeys, haddress⟩ := hshown
  have haccepted := h Net.sampleContext (fun _ ↦ "") id sampleChatEvent p hpresent
  rw [hkeys] at haccepted
  have hreply := (accepted_iff p.ref Net.sampleContext (fun _ ↦ "") (by simp)).mp haccepted
    List.mem_cons_self
  rw [haddress] at hreply
  obtain ⟨a, ha, -⟩ := hreply
  cases ha

end PhoneBridge.Interop
