import PhoneBridge.DeskDisplay.ActionSink
import PhoneBridge.DeskDisplay.LinuxBackend
import PhoneBridge.Library.Result
import PhoneBridge.Library.Run

/-!
# Clicks, closings and the map of references

Three tasks share the map of `backends/linux.rs`: a dispatch writes the reference of its toast once
the notification daemon has answered `Notify`, the consumer of `ActionInvoked` reads it, and the
consumer of `NotificationClosed` drops it. Each consumer takes the signals of its own stream in order,
and nothing orders the two streams. The daemon may give the id of a closed toast to a later one. What
a click stands for goes through the backend's sink, which may be bound to a channel or not.
-/

namespace PhoneBridge.DeskDisplay

open Library Proto

/-- The number of a toast in the order of showing; a notification id may be used again. -/
abbrev ToastNo := Nat

structure ShownToast where
  notifId : UInt32
  presentation : Presentation

/-- An `ActionInvoked` signal, with the toast that was on the surface. -/
structure Click where
  notifId : UInt32
  actionKey : String
  toast : ToastNo

/-- A change of the map: the reference of a toast is recorded, or the entry is dropped. -/
structure MapChange where
  notifId : UInt32
  recorded : Option ToastNo

/-- The notification daemon and the tasks of the backend. -/
structure ClickDesk where
  /-- every toast so far -/
  shown : List ShownToast
  surface : KeyMap UInt32 ToastNo
  /-- toasts that have an id and are not yet recorded -/
  dispatching : List ToastNo
  map : KeyMap UInt32 NotifRef
  /-- what has happened to the map, newest first -/
  changes : List MapChange
  /-- the signals that each consumer has still to take -/
  clicks : List Click
  closings : List UInt32
  /-- the consumer of `ActionInvoked` waits for a reply text -/
  prompting : Option DisplayAction
  /-- the channel that the backend's sink is bound to -/
  sink : Option Channel

inductive ClickLabel
  /-- the daemon shows the toast of an event and gives it an id -/
  | notified (event : DisplayEvent) (notifId : UInt32)
  /-- `dispatch_toast` records the reference -/
  | recorded (toast : ToastNo)
  /-- the daemon emits `ActionInvoked` -/
  | clicked (notifId : UInt32) (actionKey : String)
  /-- the daemon closes a toast and emits `NotificationClosed` -/
  | closed (notifId : UInt32)
  /-- the consumer of `ActionInvoked` takes the next signal -/
  | takesClick
  | prompted (collectReplyText : Except String String)
  /-- the consumer of `NotificationClosed` takes the next signal -/
  | takesClosing
  /-- the sink is bound to a new channel -/
  | bound
  | unbound
  /-- the other end of the channel takes the oldest action -/
  | written
  /-- the other end is gone -/
  | writerStopped

namespace ClickDesk

def start : ClickDesk where
  shown := []
  surface := .empty
  dispatching := []
  map := .empty
  changes := []
  clicks := []
  closings := []
  prompting := none
  sink := none

variable (t : String → String) (s : ClickDesk)

def notified (event : DisplayEvent) (notifId : UInt32) : Option ClickDesk :=
  match present t event with
  | .ok (some presentation) =>
    if s.surface.contains notifId then none
    else some { s with
      shown := s.shown ++ [{ notifId, presentation }]
      surface := s.surface.insert notifId s.shown.length
      dispatching := s.dispatching ++ [s.shown.length] }
  | _ => none

def recorded (toast : ToastNo) : Option ClickDesk :=
  if toast ∈ s.dispatching then
    s.shown[toast]?.map fun shown ↦ { s with
      dispatching := s.dispatching.erase toast
      map := s.map.insert shown.notifId shown.presentation.ref
      changes := { notifId := shown.notifId, recorded := some toast } :: s.changes }
  else none

/-- The user can click what the toast offers. -/
def clicked (notifId : UInt32) (actionKey : String) : Option ClickDesk :=
  (s.surface.get notifId).bind fun toast ↦ s.shown[toast]?.bind fun shown ↦
    if actionKey ∈ shown.presentation.toast.actions.map Prod.fst then
      some { s with clicks := s.clicks ++ [{ notifId, actionKey, toast }] }
    else none

def closed (notifId : UInt32) : Option ClickDesk :=
  (s.surface.get notifId).map fun _ ↦ { s with
    surface := s.surface.remove notifId
    closings := s.closings ++ [notifId] }

/-- `ActionSink::try_send`. -/
def trySend (action : DisplayAction) : Except String ClickDesk :=
  match s.sink with
  | none => .error "action sink unbound"
  | some channel => (channel.trySend action).map fun after ↦ { s with sink := some after }

/-- A failed send is only logged. -/
def emit (action : DisplayAction) : ClickDesk := (s.trySend action).toOption.getD s

/-- The consumer looks the click up; a reply waits for its text. -/
def takesClick : Option ClickDesk :=
  match s.prompting, s.clicks with
  | none, click :: clicks =>
    match (s.map.get click.notifId).bind (actionForKey click.actionKey) with
    | none => some { s with clicks }
    | some action =>
      if action.kind = "sms.reply" ∧ action.body = none then
        some { s with clicks, prompting := some action }
      else some ({ s with clicks }.emit action)
  | _, _ => none

/-- The reply is sent with the text, unless there is none. -/
def prompted (collectReplyText : Except String String) : Option ClickDesk :=
  s.prompting.map fun action ↦
    match collectReplyText with
    | .ok text =>
      if text ≠ "" then { s with prompting := none }.emit { action with body := some text }
      else { s with prompting := none }
    | .error _ => { s with prompting := none }

def takesClosing : Option ClickDesk :=
  match s.closings with
  | notifId :: closings => some { s with
      closings
      map := s.map.remove notifId
      changes := { notifId, recorded := none } :: s.changes }
  | [] => none

def written : Option ClickDesk :=
  s.sink.map fun channel ↦ { s with sink := some { channel with queue := channel.queue.tail } }

def writerStopped : Option ClickDesk :=
  s.sink.map fun channel ↦ { s with sink := some { channel with receiving := false } }

def step (s : ClickDesk) : ClickLabel → Option ClickDesk
  | .notified event notifId => s.notified t event notifId
  | .recorded toast => s.recorded toast
  | .clicked notifId actionKey => s.clicked notifId actionKey
  | .closed notifId => s.closed notifId
  | .takesClick => s.takesClick
  | .prompted collectReplyText => s.prompted collectReplyText
  | .takesClosing => s.takesClosing
  | .bound => some { s with sink := some .new }
  | .unbound => some { s with sink := none }
  | .written => s.written
  | .writerStopped => s.writerStopped

/-! ## Clicks that are served -/

/-- The consumer takes a click on a toast next. -/
structure NextClick (click : Click) (p : Presentation) : Prop where
  idle : s.prompting = none
  head : s.clicks.head? = some click
  shown : s.shown[click.toast]? = some { notifId := click.notifId, presentation := p }

/-- The action is put on the channel of the sink, and nothing else. -/
def Sent (before after : ClickDesk) (action : DisplayAction) : Prop :=
  ∃ channel, before.sink = some channel ∧
    after.sink = some { channel with queue := channel.queue ++ [action] }

/-- The action of the button is sent, or waits for its text. -/
def TakesUp (before after : ClickDesk) (action : DisplayAction) : Prop :=
  if action.kind = "sms.reply" then after.prompting = some action ∧ after.sink = before.sink
  else Sent before after action

/-- The consumer finds the reference of the clicked toast and emits the action of the clicked button,
with the ids of the toast and, for a reply, its address. -/
def Served (s : ClickDesk) : ClickLabel → Prop
  | .takesClick => ∀ click p, NextClick s click p → s.map.get click.notifId = some p.ref ∧
      ∃ action after, actionForKey click.actionKey p.ref = some action ∧
        action.envelopeId = p.toast.envelopeId ∧ action.deviceId = p.toast.deviceId ∧
        (click.actionKey = "reply" → action.recipient = p.ref.address) ∧
        s.takesClick = some after ∧ TakesUp s after action
  | .prompted (.ok text) => ∀ action, s.prompting = some action → text ≠ "" →
      ∃ after, s.prompted (.ok text) = some after ∧
        Sent s after { action with body := some text }
  | _ => True

/-- The last change of the map under an id. -/
def lastChange (notifId : UInt32) : Option MapChange :=
  s.changes.find? fun change ↦ change.notifId = notifId

/-- What has happened last to the entry of the clicked toast's id is that the toast has been recorded,
or one with the same reference. -/
def RecordedLast (s : ClickDesk) : ClickLabel → Prop
  | .takesClick => ∀ click p, NextClick s click p → ∃ change toast shown,
      s.lastChange click.notifId = some change ∧ change.recorded = some toast ∧
      s.shown[toast]? = some shown ∧ shown.presentation.ref = p.ref
  | _ => True

/-- The sink is bound to a channel that takes another action. -/
def SinkAccepts : Prop := ∃ channel, s.sink = some channel ∧ channel.Accepts

/-- Whatever a step is to send, the sink takes it. -/
def SinkTakes (s : ClickDesk) : ClickLabel → Prop
  | .takesClick => ∀ click p, NextClick s click p → click.actionKey ≠ "reply" → s.SinkAccepts
  | .prompted (.ok text) => s.prompting ≠ none → text ≠ "" → s.SinkAccepts
  | _ => True

/-- The reference that was recorded last under an id and has not been dropped. -/
def recordedRef (notifId : UInt32) : Option NotifRef :=
  (s.lastChange notifId).bind fun change ↦ change.recorded.bind fun toast ↦
    s.shown[toast]?.map fun shown ↦ shown.presentation.ref

/-- The toast is one that the backend makes of some event. -/
def Presented (p : Presentation) : Prop := ∃ event, present t event = .ok (some p)

structure Inv (s : ClickDesk) : Prop where
  map : ∀ notifId, s.map.get notifId = s.recordedRef notifId
  changes : ∀ change ∈ s.changes, ∀ toast, change.recorded = some toast → toast < s.shown.length
  surface : ∀ notifId toast, s.surface.get notifId = some toast →
    ∃ p, s.shown[toast]? = some { notifId, presentation := p }
  clicks : ∀ click ∈ s.clicks, ∃ p,
    s.shown[click.toast]? = some { notifId := click.notifId, presentation := p } ∧
    click.actionKey ∈ p.toast.actions.map Prod.fst
  presented : ∀ shown ∈ s.shown, Presented t shown.presentation

section Presented

variable {t} {p : Presentation}

/-- The reference of a toast has the ids of the toast, and its buttons are those of some kind. -/
theorem Presented.ids_and_buttons (h : Presented t p) :
    p.ref.envelopeId = p.toast.envelopeId ∧ p.ref.deviceId = p.toast.deviceId ∧
      ∃ kind, p.toast.actions = actionListFor t kind := by
  obtain ⟨event, hevent⟩ := h
  unfold present at hevent
  split at hevent
  · obtain ⟨n, -, hmade⟩ := bind_eq_ok.mp hevent
    cases hmade
    exact ⟨rfl, rfl, "notification", rfl⟩
  · obtain ⟨sms, -, hmade⟩ := bind_eq_ok.mp hevent
    cases hmade
    exact ⟨rfl, rfl, "sms", rfl⟩
  · obtain ⟨call, -, hmade⟩ := bind_eq_ok.mp hevent
    cases hmade
    exact ⟨rfl, rfl, "call", rfl⟩
  · obtain ⟨call, -, hmade⟩ := bind_eq_ok.mp hevent
    have hshown : presentCallState t event.envelopeId event.deviceId call = some p :=
      Except.ok.inj hmade
    obtain ⟨toast, htoast, rfl⟩ := Option.map_eq_some_iff.mp hshown
    obtain ⟨-, hbuilt⟩ := Option.ite_none_left_eq_some.mp htoast
    cases hbuilt
    exact ⟨rfl, rfl, "call", rfl⟩
  · cases hevent
    exact ⟨rfl, rfl, "action_result", rfl⟩
  · cases hevent
    exact ⟨rfl, rfl, "phone_offline", rfl⟩
  all_goals cases hevent

/-- An action starts without a text. -/
theorem body_of_actionForKey {key : String} {r : NotifRef} {action : DisplayAction}
    (h : actionForKey key r = some action) : action.body = none := by
  unfold actionForKey at h
  split at h
  all_goals
    cases h
    try rfl

/-- Only the reply button stands for a reply, to the address of the toast. -/
theorem reply_of_actionForKey {key : String} {r : NotifRef} {action : DisplayAction}
    (h : actionForKey key r = some action) :
    (action.kind = "sms.reply" ↔ key = "reply") ∧ (key = "reply" → action.recipient = r.address) := by
  unfold actionForKey at h
  split at h
  all_goals
    cases h
    try simp

end Presented

/-! ## Sending -/

section Sending

variable {s} {before : ClickDesk} {action : DisplayAction}

/-- A send touches the sink only. -/
theorem emit_eq (s : ClickDesk) (action : DisplayAction) :
    ∃ sink, s.emit action = { s with sink := sink } := by
  unfold emit trySend
  cases hsink : s.sink with
  | none => exact ⟨none, by simp [Except.toOption, ← hsink]⟩
  | some channel =>
    cases hsend : channel.trySend action with
    | error e => exact ⟨some channel, by simp [hsend, Except.map, Except.toOption, ← hsink]⟩
    | ok after => exact ⟨some after, by simp [hsend, Except.map, Except.toOption]⟩

/-- An action is sent exactly when the sink takes it. -/
theorem sent_emit_iff (hsame : s.sink = before.sink) :
    Sent before (s.emit action) action ↔ before.SinkAccepts := by
  constructor
  · rintro ⟨channel, hbefore, hafter⟩
    cases hsend : channel.trySend action with
    | error e =>
      -- the queue has not grown
      simp [emit, trySend, hsame, hbefore, hsend, Except.map, Except.toOption] at hafter
      have hlength := congrArg (fun c : Channel ↦ c.queue.length) hafter
      simp at hlength
    | ok after => exact ⟨channel, hbefore, (Channel.trySend_eq_ok.mp hsend).1⟩
  · rintro ⟨channel, hbefore, haccepts⟩
    refine ⟨channel, hbefore, ?_⟩
    simp [emit, trySend, hsame, hbefore, Channel.trySend_eq_ok.mpr ⟨haccepts, rfl⟩, Except.map,
      Except.toOption]

end Sending

/-! ## The invariant -/

section Invariant

variable {t} {s} {after : ClickDesk}

theorem inv_start : Inv t start where
  map _ := rfl
  changes _ h := by cases h
  surface _ _ h := by cases h
  clicks _ h := by cases h
  presented _ h := by cases h

/-- A toast that has been shown keeps its number. -/
theorem getElem?_append {more : List ShownToast} {toast : ToastNo} {shown : ShownToast}
    (h : s.shown[toast]? = some shown) : (s.shown ++ more)[toast]? = some shown := by
  rw [List.getElem?_append_left (List.getElem?_eq_some_iff.mp h).1, h]

/-- What is recorded does not depend on later toasts. -/
theorem recordedRef_of_more (hinv : Inv t s) {more : List ShownToast}
    (hchanges : after.changes = s.changes) (hshown : after.shown = s.shown ++ more)
    (notifId : UInt32) : after.recordedRef notifId = s.recordedRef notifId := by
  unfold recordedRef lastChange
  rw [hchanges, hshown]
  cases hlast : s.changes.find? fun change ↦ change.notifId = notifId with
  | none => rfl
  | some change =>
    cases hrecorded : change.recorded with
    | none => simp [hrecorded]
    | some toast =>
      have hmem : change ∈ s.changes := List.mem_of_find?_eq_some hlast
      have hlt := hinv.changes change hmem toast hrecorded
      simp [hrecorded, List.getElem?_append_left hlt]

/-- A step that leaves the map alone keeps the invariant, if toasts are only added to what has been
shown, and what is on the surface and what is clicked is among them. -/
theorem Inv.of_more (hinv : Inv t s) {more : List ShownToast} (hmap : after.map = s.map)
    (hchanges : after.changes = s.changes) (hshown : after.shown = s.shown ++ more)
    (hsurface : ∀ notifId toast, after.surface.get notifId = some toast →
      s.surface.get notifId = some toast ∨
        ∃ p, after.shown[toast]? = some { notifId, presentation := p })
    (hclicks : ∀ click ∈ after.clicks, click ∈ s.clicks ∨ ∃ p,
      after.shown[click.toast]? = some { notifId := click.notifId, presentation := p } ∧
      click.actionKey ∈ p.toast.actions.map Prod.fst)
    (hmore : ∀ shown ∈ more, Presented t shown.presentation) : Inv t after where
  map notifId := by
    rw [hmap, hinv.map, recordedRef_of_more hinv hchanges hshown]
  changes change hchange toast htoast := by
    rw [hchanges] at hchange
    have hlt := hinv.changes change hchange toast htoast
    rw [hshown, List.length_append]
    exact Nat.lt_add_right _ hlt
  surface notifId toast h := by
    rcases hsurface notifId toast h with hold | hnew
    · obtain ⟨p, hp⟩ := hinv.surface notifId toast hold
      rw [hshown]
      exact ⟨p, getElem?_append hp⟩
    · exact hnew
  clicks click h := by
    rcases hclicks click h with hold | hnew
    · obtain ⟨p, hp, hkey⟩ := hinv.clicks click hold
      rw [hshown]
      exact ⟨p, getElem?_append hp, hkey⟩
    · exact hnew
  presented shown h := by
    rw [hshown] at h
    exact (List.mem_append.mp h).elim (hinv.presented shown) (hmore shown)

theorem Inv.of_same (hinv : Inv t s) (hmap : after.map = s.map)
    (hchanges : after.changes = s.changes) (hshown : after.shown = s.shown)
    (hsurface : after.surface = s.surface) (hclicks : ∀ click ∈ after.clicks, click ∈ s.clicks) :
    Inv t after :=
  hinv.of_more hmap hchanges (hshown.trans (List.append_nil _).symm)
    (fun _ _ h ↦ .inl (hsurface ▸ h)) (fun click h ↦ .inl (hclicks click h)) (by simp)

theorem inv_notified (hinv : Inv t s) {event : DisplayEvent} {notifId : UInt32}
    (h : s.notified t event notifId = some after) : Inv t after := by
  unfold notified at h
  split at h
  · next presentation hpresent =>
    split at h
    · cases h
    · cases h
      refine hinv.of_more rfl rfl rfl ?_ (fun _ h ↦ .inl h) ?_
      · intro id toast hsurface
        rcases KeyMap.get_insert_eq_some.mp hsurface with ⟨rfl, rfl⟩ | ⟨-, hold⟩
        · exact .inr ⟨presentation, by simp⟩
        · exact .inl hold
      · intro shown hnew
        rw [List.mem_singleton.mp hnew]
        exact ⟨event, hpresent⟩
  · cases h

theorem inv_recorded (hinv : Inv t s) {toast : ToastNo} (h : s.recorded toast = some after) :
    Inv t after := by
  unfold recorded at h
  split at h
  · obtain ⟨shown, hshown, rfl⟩ := Option.map_eq_some_iff.mp h
    exact {
      map := fun id ↦ by
        by_cases hid : id = shown.notifId
        · subst hid
          simp [recordedRef, lastChange, hshown]
        · have hother : shown.notifId ≠ id := fun heq ↦ hid heq.symm
          rw [KeyMap.get_insert_of_ne _ _ hid, hinv.map id]
          simp [recordedRef, lastChange, hother]
      changes := fun change hchange other hother ↦ by
        rcases List.mem_cons.mp hchange with rfl | hold
        · cases hother
          exact (List.getElem?_eq_some_iff.mp hshown).1
        · exact hinv.changes change hold other hother
      surface := hinv.surface
      clicks := hinv.clicks
      presented := hinv.presented }
  · cases h

theorem inv_takesClosing (hinv : Inv t s) (h : s.takesClosing = some after) : Inv t after := by
  unfold takesClosing at h
  split at h
  · next notifId closings hclosings =>
    cases h
    exact {
      map := fun id ↦ by
        by_cases hid : id = notifId
        · subst hid
          simp [recordedRef, lastChange]
        · have hother : notifId ≠ id := fun heq ↦ hid heq.symm
          rw [KeyMap.get_remove_of_ne _ hid, hinv.map id]
          simp [recordedRef, lastChange, hother]
      changes := fun change hchange toast htoast ↦ by
        rcases List.mem_cons.mp hchange with rfl | hold
        · cases htoast
        · exact hinv.changes change hold toast htoast
      surface := hinv.surface
      clicks := hinv.clicks
      presented := hinv.presented }
  · cases h

theorem inv_clicked (hinv : Inv t s) {notifId : UInt32} {actionKey : String}
    (h : s.clicked notifId actionKey = some after) : Inv t after := by
  obtain ⟨toast, htoast, h⟩ := Option.bind_eq_some_iff.mp h
  obtain ⟨shown, hshown, h⟩ := Option.bind_eq_some_iff.mp h
  split at h
  · next hkey =>
    cases h
    obtain ⟨p, hp⟩ := hinv.surface notifId toast htoast
    refine hinv.of_more rfl rfl (List.append_nil _).symm (fun _ _ h ↦ .inl h) ?_ (by simp)
    intro click hclick
    rcases List.mem_append.mp hclick with hold | hnew
    · exact .inl hold
    · rw [List.mem_singleton.mp hnew]
      rw [hshown] at hp
      cases hp
      exact .inr ⟨p, hshown, hkey⟩
  · cases h

theorem inv_emit (hinv : Inv t s) (action : DisplayAction) : Inv t (s.emit action) := by
  obtain ⟨sink, hemit⟩ := emit_eq s action
  rw [hemit]
  exact hinv.of_same rfl rfl rfl rfl fun _ h ↦ h

theorem inv_takesClick (hinv : Inv t s) (h : s.takesClick = some after) : Inv t after := by
  unfold takesClick at h
  split at h
  · next click clicks hprompting hclicks =>
    have hsub : ∀ c ∈ clicks, c ∈ s.clicks := fun c hc ↦ by
      rw [hclicks]
      exact List.mem_cons_of_mem _ hc
    have htaken : Inv t { s with clicks } := hinv.of_same rfl rfl rfl rfl hsub
    split at h
    · cases h
      exact htaken
    · split at h
      · cases h
        exact htaken.of_same rfl rfl rfl rfl fun _ h ↦ h
      · cases h
        exact inv_emit htaken _
  · cases h

theorem inv_prompted (hinv : Inv t s) {collectReplyText : Except String String}
    (h : s.prompted collectReplyText = some after) : Inv t after := by
  have hidle : Inv t { s with prompting := none } := hinv.of_same rfl rfl rfl rfl fun _ h ↦ h
  obtain ⟨action, -, rfl⟩ := Option.map_eq_some_iff.mp h
  split
  · split
    · exact inv_emit hidle _
    · exact hidle
  · exact hidle

theorem inv_step (hinv : Inv t s) {label : ClickLabel} (h : step t s label = some after) :
    Inv t after := by
  cases label with
  | notified event notifId => exact inv_notified hinv h
  | recorded toast => exact inv_recorded hinv h
  | clicked notifId actionKey => exact inv_clicked hinv h
  | takesClick => exact inv_takesClick hinv h
  | prompted collectReplyText => exact inv_prompted hinv h
  | takesClosing => exact inv_takesClosing hinv h
  | closed notifId =>
    obtain ⟨toast, -, rfl⟩ := Option.map_eq_some_iff.mp h
    refine hinv.of_more rfl rfl (List.append_nil _).symm ?_ (fun _ h ↦ .inl h) (by simp)
    intro id toast hget
    exact .inl (KeyMap.get_remove_eq_some.mp hget).2
  | bound =>
    cases h
    exact hinv.of_same rfl rfl rfl rfl fun _ h ↦ h
  | unbound =>
    cases h
    exact hinv.of_same rfl rfl rfl rfl fun _ h ↦ h
  | written =>
    obtain ⟨channel, -, rfl⟩ := Option.map_eq_some_iff.mp h
    exact hinv.of_same rfl rfl rfl rfl fun _ h ↦ h
  | writerStopped =>
    obtain ⟨channel, -, rfl⟩ := Option.map_eq_some_iff.mp h
    exact hinv.of_same rfl rfl rfl rfl fun _ h ↦ h

end Invariant

/-! ## When clicks are served -/

section Serving

variable {t} {s}

theorem recordedRef_eq_some {notifId : UInt32} {r : NotifRef} :
    s.recordedRef notifId = some r ↔ ∃ change toast shown, s.lastChange notifId = some change ∧
      change.recorded = some toast ∧ s.shown[toast]? = some shown ∧ shown.presentation.ref = r := by
  simp only [recordedRef, Option.bind_eq_some_iff, Option.map_eq_some_iff]
  constructor
  · rintro ⟨change, hchange, toast, htoast, shown, hshown, hr⟩
    exact ⟨change, toast, shown, hchange, htoast, hshown, hr⟩
  · rintro ⟨change, toast, shown, hchange, htoast, hshown, hr⟩
    exact ⟨change, hchange, toast, htoast, shown, hshown, hr⟩

/-- The button of a clicked toast stands for an action with the ids of the toast, and the consumer
that finds the toast's reference takes that action up. -/
theorem takesClick_of_found (hinv : Inv t s) {click : Click} {p : Presentation}
    (hnext : NextClick s click p) (hfound : s.map.get click.notifId = some p.ref) :
    ∃ action clicks, actionForKey click.actionKey p.ref = some action ∧
      action.envelopeId = p.toast.envelopeId ∧ action.deviceId = p.toast.deviceId ∧
      s.takesClick = some (if click.actionKey = "reply" then
        { s with clicks, prompting := some action } else { s with clicks }.emit action) := by
  obtain ⟨clicks, hclicks⟩ := List.head?_eq_some_iff.mp hnext.head
  have hmem : click ∈ s.clicks := by
    rw [hclicks]
    exact List.mem_cons_self
  obtain ⟨p', hp', hkey⟩ := hinv.clicks click hmem
  have hsame : p' = p := congrArg ShownToast.presentation
    (Option.some.inj (hp'.symm.trans hnext.shown))
  subst hsame
  obtain ⟨henvelope, hdevice, kind, hbuttons⟩ :=
    (hinv.presented _ (List.mem_of_getElem? hnext.shown)).ids_and_buttons
  rw [hbuttons] at hkey
  obtain ⟨action, haction, haenvelope, hadevice⟩ := actionForKey_of_offered p'.ref hkey
  have hlooked : (s.map.get click.notifId).bind (actionForKey click.actionKey) = some action := by
    rw [hfound]
    exact haction
  have hwaits : (action.kind = "sms.reply" ∧ action.body = none) ↔ click.actionKey = "reply" := by
    rw [← (reply_of_actionForKey haction).1]
    exact and_iff_left (body_of_actionForKey haction)
  refine ⟨action, clicks, haction, haenvelope.trans henvelope, hadevice.trans hdevice, ?_⟩
  simp only [takesClick, hnext.idle, hclicks, hlooked, hwaits]
  split <;> rfl

/-- A click whose reference is found is served exactly when the sink takes its action, unless it
waits for a text. -/
theorem served_iff_of_found (hinv : Inv t s) {click : Click} {p : Presentation}
    (hnext : NextClick s click p) (hfound : s.map.get click.notifId = some p.ref) :
    (∃ action after, actionForKey click.actionKey p.ref = some action ∧
      action.envelopeId = p.toast.envelopeId ∧ action.deviceId = p.toast.deviceId ∧
      (click.actionKey = "reply" → action.recipient = p.ref.address) ∧
      s.takesClick = some after ∧ TakesUp s after action) ↔
      (click.actionKey ≠ "reply" → s.SinkAccepts) := by
  obtain ⟨action, clicks, haction, henvelope, hdevice, htakes⟩ :=
    takesClick_of_found hinv hnext hfound
  obtain ⟨hreply, haddress⟩ := reply_of_actionForKey haction
  constructor
  · rintro ⟨other, after, hother, -, -, -, hafter, htaken⟩ hkey
    cases haction.symm.trans hother
    rw [htakes, if_neg hkey] at hafter
    cases hafter
    rw [TakesUp, if_neg fun hkind ↦ hkey (hreply.mp hkind)] at htaken
    exact (sent_emit_iff (s := { s with clicks }) rfl).mp htaken
  · intro haccepts
    refine ⟨action, _, haction, henvelope, hdevice, haddress, htakes, ?_⟩
    by_cases hkey : click.actionKey = "reply"
    · rw [TakesUp, if_pos (hreply.mpr hkey), if_pos hkey]
      exact ⟨rfl, rfl⟩
    · rw [TakesUp, if_neg fun hkind ↦ hkey (hreply.mp hkind), if_neg hkey]
      exact (sent_emit_iff (s := { s with clicks }) rfl).mpr (haccepts hkey)

/-- A reply with a text is sent exactly when the sink takes it. -/
theorem served_prompted_iff (text : String) :
    Served s (.prompted (.ok text)) ↔ SinkTakes s (.prompted (.ok text)) := by
  cases hprompting : s.prompting with
  | none => simp [Served, SinkTakes, hprompting]
  | some action =>
    simp only [Served, SinkTakes, hprompting, Option.some.injEq, forall_eq', ne_eq, reduceCtorEq,
      not_false_eq_true, forall_const]
    refine forall_congr' fun htext ↦ ?_
    simp only [prompted, hprompting, ne_eq, htext, not_false_eq_true, if_true, Option.map_some,
      Option.some.injEq, exists_eq_left']
    exact sent_emit_iff rfl

theorem served_iff (hinv : Inv t s) (label : ClickLabel) :
    Served s label ↔ RecordedLast s label ∧ SinkTakes s label := by
  cases label with
  | takesClick =>
    simp only [Served, RecordedLast, SinkTakes, ← forall_and]
    refine forall_congr' fun click ↦ forall_congr' fun p ↦ forall_congr' fun hnext ↦ ?_
    rw [← recordedRef_eq_some, ← hinv.map]
    exact and_congr_right fun hfound ↦ served_iff_of_found hinv hnext hfound
  | prompted collectReplyText =>
    cases collectReplyText with
    | error e => exact (and_self_iff (a := True)).symm
    | ok text => exact (served_prompted_iff text).trans (iff_of_eq (true_and _)).symm
  | _ => exact (and_self_iff (a := True)).symm

end Serving

/-- In every run, the clicks are served exactly when each of them is taken up while the recording of
its toast is the last that has happened to the toast's entry, and the sink takes whatever is sent. -/
theorem clicks_served_iff (t : String → String) (labels : List ClickLabel) :
    Run.Throughout (step t) Served start labels ↔
      Run.Throughout (step t) (fun s label ↦ RecordedLast s label ∧ SinkTakes s label) start labels :=
  Run.throughout_congr (Inv t) (fun _ _ _ hinv hstep ↦ inv_step hinv hstep)
    (fun _ label hinv ↦ served_iff hinv label) inv_start

/-! ## A closing that overtakes a click -/

/-- An SMS. -/
def sampleRacedEvent : DisplayEvent where
  kind := "sms.received"
  deviceId := ⟨1⟩
  envelopeId := ⟨17⟩
  timestamp := 1000
  payload := SmsReceived.toValue {
    id := "17"
    address := "+491701234567"
    body := "hello"
    receivedAt := 1000
    simSlot := none
    subscriptionId := none }
  summary := .null

/-- The sink is bound, the user marks the SMS as read, the daemon closes the toast, and the closing is
taken first. -/
def sampleRace : List ClickLabel := [.bound, .notified sampleRacedEvent 1, .recorded 0,
  .clicked 1 "mark_read", .closed 1, .takesClosing, .takesClick]

/-- The click is lost. -/
theorem closing_overtakes_click : ¬ ∀ (t : String → String) (labels : List ClickLabel),
    Run.Throughout (step t) Served start labels := by
  intro h
  have hserved := h id sampleRace
  obtain ⟨-, hbound⟩ := hserved
  obtain ⟨-, hnotified⟩ := hbound _ rfl
  obtain ⟨-, hrecorded⟩ := hnotified _ rfl
  obtain ⟨-, hclicked⟩ := hrecorded _ rfl
  obtain ⟨-, hclosed⟩ := hclicked _ rfl
  obtain ⟨-, htaken⟩ := hclosed _ rfl
  obtain ⟨hclick, -⟩ := htaken _ rfl
  have hfound := (hclick { notifId := 1, actionKey := "mark_read", toast := 0 } _
    { idle := rfl, head := rfl, shown := rfl }).1
  cases hfound

end ClickDesk

end PhoneBridge.DeskDisplay
