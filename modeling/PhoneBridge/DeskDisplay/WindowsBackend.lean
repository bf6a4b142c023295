import PhoneBridge.DeskDisplay.LinuxBackend

/-!
# The Windows backend of the desktop display

`backends/windows.rs`: a toast is rendered as markup whose buttons carry an `arguments` string, and
the toast is recorded under that string, so that the activation of a button can be looked up. The
string is built from the button's key alone. The translation of the events is the Linux backend's.
-/

namespace PhoneBridge.DeskDisplay

open Library Proto

namespace WindowsBackend

/-! ## The markup -/

/-- The text with a character replaced everywhere. -/
def replace (c : Char) (entity : String) (s : String) : String :=
  String.ofList (s.toList.flatMap fun d ↦ if d = c then entity.toList else [d])

/-- Escape XML special characters in user-supplied strings. -/
def esc (s : String) : String :=
  replace '"' "&quot;" (replace '>' "&gt;" (replace '<' "&lt;" (replace '&' "&amp;" s)))

/-- The string that the activation of a button reports. -/
def buttonArguments (key : String) : String := "phonebridge://action/" ++ key

/-- The element of one button. -/
def actionElement (action : String × String) : String :=
  "<action content=\"" ++ esc action.2 ++ "\" arguments=\"" ++ buttonArguments action.1 ++
    "\" activationType=\"foreground\" />"

/-- Build the XML payload for a single toast. -/
def buildToastXml (toast : MockToast) : String :=
  let actions := String.join (toast.actions.map actionElement)
  let actionsBlock := if actions = "" then "" else "<actions>" ++ actions ++ "</actions>"
  "<toast activationType=\"foreground\" launch=\"phonebridge://action/noop\">\n" ++
    "  <visual>\n    <binding template=\"ToastGeneric\">\n" ++
    "      <text>" ++ esc toast.title ++ "</text>\n      <text>" ++ esc toast.body ++ "</text>\n" ++
    "    </binding>\n  </visual>\n  " ++ actionsBlock ++ "\n</toast>"

/-- A part of a text is a part of what is built around the text. -/
theorem infix_append_append {part s : String} (h : part.toList <:+: s.toList)
    (before after : String) : part.toList <:+: (before ++ s ++ after).toList := by
  rw [String.toList_append, String.toList_append]
  exact h.trans (List.infix_append _ _ _)

/-- The markup of a toast has an element for each of its buttons. -/
theorem actionElement_infix_buildToastXml {toast : MockToast}
    {action : String × String} (haction : action ∈ toast.actions) :
    (actionElement action).toList <:+: (buildToastXml toast).toList := by
  have hjoined : (actionElement action).toList <:+:
      (String.join (toast.actions.map actionElement)).toList := by
    rw [String.toList_join]
    exact List.infix_of_mem_flatten (List.mem_map_of_mem (List.mem_map_of_mem haction))
  unfold buildToastXml
  by_cases hempty : String.join (toast.actions.map actionElement) = ""
  · rw [hempty] at hjoined
    rw [List.infix_nil.mp hjoined]
    exact List.nil_infix
  · simp only [if_neg hempty]
    exact infix_append_append (infix_append_append hjoined _ _) _ _

/-! ## The pending map -/

structure PendingEntry where
  envelopeId : Uuid
  deviceId : Uuid
  kind : MockToastKind
  deriving DecidableEq, Repr

abbrev PendingMap := KeyMap String PendingEntry

/-- What is recorded for the buttons of a toast. -/
def pendingEntries (toast : MockToast) : List (String × PendingEntry) :=
  toast.actions.map fun (key, _label) ↦ ("phonebridge://action/" ++ key,
    { envelopeId := toast.envelopeId, deviceId := toast.deviceId, kind := toast.kind })

section Sequences

variable (display : SerdeError → String) (t : String → String)

/-- Translate and record; an event that cannot be translated leaves the map alone. -/
def showTranslated (pending : PendingMap) (event : DisplayEvent) : PendingMap :=
  match translateViaEvent display t event with
  | .ok (some toast) => pending.insertAll (pendingEntries toast)
  | .ok none => pending
  | .error _ => pending

/-- The toasts that the events are shown as, oldest first. -/
def toasts (events : List DisplayEvent) : List MockToast :=
  events.filterMap fun event ↦ (translateViaEvent display t event).toOption.join

/-- The map after the events have been presented. -/
def pendingAfter (events : List DisplayEvent) : PendingMap :=
  events.foldl (showTranslated display t) .empty

/-- What the map holds is what the toasts have recorded, one after the other. -/
theorem pendingAfter_eq_insertAll (events : List DisplayEvent) :
    pendingAfter display t events =
      KeyMap.empty.insertAll ((toasts display t events).flatMap pendingEntries) := by
  have hfold (pending : PendingMap) : events.foldl (showTranslated display t) pending =
      pending.insertAll ((toasts display t events).flatMap pendingEntries) := by
    induction events generalizing pending with
    | nil => rfl
    | cons event events ih =>
      rw [List.foldl_cons, ih]
      unfold showTranslated toasts
      rw [List.filterMap_cons]
      cases translateViaEvent display t event with
      | error => rfl
      | ok toast =>
        cases toast with
        | none => rfl
        | some toast => exact (KeyMap.insertAll_append _ _ _).symm
  exact hfold _

/-- What is recorded for a button, under a string that tells nothing but its key. -/
theorem mem_pendingEntries {toast : MockToast} {key : String} {entry : PendingEntry} :
    (buttonArguments key, entry) ∈ pendingEntries toast ↔
      (∃ action ∈ toast.actions, action.1 = key) ∧
        entry = { envelopeId := toast.envelopeId, deviceId := toast.deviceId, kind := toast.kind } := by
  constructor
  · intro h
    obtain ⟨action, haction, heq⟩ := List.mem_map.mp h
    have hkey : action.1 = key := (String.append_right_inj _).mp (congrArg Prod.fst heq)
    exact ⟨⟨action, haction, hkey⟩, (congrArg Prod.snd heq).symm⟩
  · rintro ⟨⟨action, haction, hkey⟩, rfl⟩
    exact List.mem_map.mpr ⟨action, haction, by rw [← hkey]; rfl⟩

/-- A recorded button is found, and what is found was recorded for a button with the same key. -/
theorem get_pendingAfter {events : List DisplayEvent} {toast : MockToast}
    (htoast : toast ∈ toasts display t events) {action : String × String}
    (haction : action ∈ toast.actions) :
    ∃ found ∈ toasts display t events, (∃ action' ∈ found.actions, action'.1 = action.1) ∧
      (pendingAfter display t events).get (buttonArguments action.1) =
        some { envelopeId := found.envelopeId, deviceId := found.deviceId, kind := found.kind } := by
  let entries := (toasts display t events).flatMap pendingEntries
  have hrecorded : (entries.reverse.find? fun entry ↦
      entry.1 = buttonArguments action.1).isSome := by
    have hentry := mem_pendingEntries.mpr ⟨⟨action, haction, rfl⟩, rfl⟩
    rw [List.find?_isSome]
    exact ⟨_, List.mem_reverse.mpr (List.mem_flatMap.mpr ⟨toast, htoast, hentry⟩), by simp⟩
  obtain ⟨⟨arguments, entry⟩, hfind⟩ := Option.isSome_iff_exists.mp hrecorded
  have harguments : arguments = buttonArguments action.1 := by
    simpa using List.find?_some hfind
  have hmem : (arguments, entry) ∈ entries := List.mem_reverse.mp (List.mem_of_find?_eq_some hfind)
  obtain ⟨found, hfound, hentry⟩ := List.mem_flatMap.mp hmem
  subst harguments
  obtain ⟨hkey, rfl⟩ := mem_pendingEntries.mp hentry
  refine ⟨found, hfound, hkey, ?_⟩
  rw [pendingAfter_eq_insertAll, KeyMap.get_insertAll, hfind]
  rfl

/-- The buttons of every toast lead to the toast that they are on. -/
def ButtonsIdentify (events : List DisplayEvent) : Prop :=
  ∀ toast ∈ toasts display t events, ∀ action ∈ toast.actions,
    ∃ entry, (pendingAfter display t events).get (buttonArguments action.1) = some entry ∧
      entry.envelopeId = toast.envelopeId ∧ entry.deviceId = toast.deviceId

/-- Two toasts have a button of the same key. -/
def ShareKey (first second : MockToast) : Prop :=
  ∃ action ∈ first.actions, ∃ action' ∈ second.actions, action.1 = action'.1

/-- Toasts that share a button can only be told apart by it when there is nothing to tell. -/
theorem ids_of_shareKey {events : List DisplayEvent} (hidentify : ButtonsIdentify display t events)
    {first second : MockToast} (hfirst : first ∈ toasts display t events)
    (hsecond : second ∈ toasts display t events) (hshare : ShareKey first second) :
    first.envelopeId = second.envelopeId ∧ first.deviceId = second.deviceId := by
  obtain ⟨action, haction, action', haction', hkey⟩ := hshare
  obtain ⟨entry, hentry, henvelope, hdevice⟩ := hidentify first hfirst action haction
  obtain ⟨entry', hentry', henvelope', hdevice'⟩ := hidentify second hsecond action' haction'
  have hsame : entry = entry' := by
    rw [hkey, hentry'] at hentry
    exact (Option.some.inj hentry).symm
  subst hsame
  exact ⟨henvelope.symm.trans henvelope', hdevice.symm.trans hdevice'⟩

/-- Whatever the sequence of events, the buttons lead to their toasts exactly when toasts that have
a button in common are about the same envelope of the same device. -/
theorem buttons_identify_toast_iff (events : List DisplayEvent) :
    ButtonsIdentify display t events ↔
      ∀ first ∈ toasts display t events, ∀ second ∈ toasts display t events, ShareKey first second →
        first.envelopeId = second.envelopeId ∧ first.deviceId = second.deviceId := by
  constructor
  · intro hidentify first hfirst second hsecond
    exact ids_of_shareKey display t hidentify hfirst hsecond
  · intro hshared toast htoast action haction
    obtain ⟨found, hfound, ⟨action', haction', hkey⟩, hget⟩ :=
      get_pendingAfter display t htoast haction
    have hids := hshared found hfound toast htoast ⟨action', haction', action, haction, hkey⟩
    exact ⟨_, hget, hids⟩

end Sequences

/-! ## Two toasts of one phone -/

def sampleSms : DisplayEvent where
  kind := "sms.received"
  deviceId := ⟨1⟩
  envelopeId := ⟨17⟩
  timestamp := 1000
  payload := SmsReceived.toValue {
    id := "17"
    address := "+491701234567"
    body := "hello"
    receivedAt := 1000
    simSlot := none
    subscriptionId := none }
  summary := .null

def sampleNews : DisplayEvent where
  kind := "notification.received"
  deviceId := ⟨1⟩
  envelopeId := ⟨18⟩
  timestamp := 2000
  payload := NotificationReceived.toValue {
    id := "18"
    package := "news"
    appName := none
    title := "News"
    content := "rain"
    postedAt := 2000
    isSensitive := false
    category := none }
  summary := .null

/-- The buttons of an SMS lead to the notification that is shown after it. -/
theorem sms_button_leads_to_news : ¬ ∀ (display : SerdeError → String) (t : String → String)
    (events : List DisplayEvent),
    ButtonsIdentify display t events := by
  intro h
  have htoasts : toasts (fun _ ↦ "") id [sampleSms, sampleNews] =
      [translateSms id ⟨17⟩ ⟨1⟩ {
        id := "17", address := "+491701234567", body := "hello", receivedAt := 1000
        simSlot := none, subscriptionId := none },
      translateNotification id ⟨18⟩ ⟨1⟩ {
        id := "18", package := "news", appName := none, title := "News", content := "rain"
        postedAt := 2000, isSensitive := false, category := none }] := rfl
  have hids := ids_of_shareKey (fun _ ↦ "") id (h (fun _ ↦ "") id [sampleSms, sampleNews])
    (htoasts ▸ List.mem_cons_self) (htoasts ▸ List.mem_cons_of_mem _ List.mem_cons_self)
    ⟨("reply", "notif.action.reply"), List.mem_cons_self, ("reply", "notif.action.reply"),
      List.mem_cons_self, rfl⟩
  exact absurd hids.1 (by decide)

end WindowsBackend

end PhoneBridge.DeskDisplay
