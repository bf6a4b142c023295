import PhoneBridge.DeskDisplay.ActionSink
import PhoneBridge.DeskDisplay.LinuxBackend
import PhoneBridge.Library.Result
import PhoneBridge.Library.Run

/-!
# The buttons of a toast over all sessions

`actions.rs`, `client.rs` and the wiring of `main.rs`: the client binds its sink to the outgoing
channel of each session, and the backend sends what a click stands for through a sink that it has
created itself. A run is any sequence of sessions, events, clicks and closed toasts.
-/

namespace PhoneBridge.DeskDisplay

open Library Proto

/-! ## Sinks and channels -/

/-- The outgoing channel of a session. -/
abbrev ChannelId := Nat

/-- Which sinks the backend and the client have been given. -/
structure Wiring where
  backend : SinkId
  client : SinkId

/-- `main`: the backend creates a sink, then `main` creates the one that the client runs with. -/
def mainWiring : Wiring :=
  let (backend, allocated) := ActionSink.new 0
  let (client, _) := ActionSink.new allocated
  { backend, client }

/-! ## Runs -/

/-- The display service with the notification daemon's surface. -/
structure Desktop where
  /-- the channel that a sink is bound to -/
  sinks : KeyMap SinkId ChannelId
  channels : ChannelId → Channel
  /-- channels created so far -/
  opened : Nat
  session : Option ChannelId
  /-- the toast that has an id and is not yet recorded -/
  presenting : Option (UInt32 × NotifRef)
  map : KeyMap UInt32 NotifRef
  surface : KeyMap UInt32 MockToast

/-- No session yet, and nothing shown. -/
def Desktop.start : Desktop where
  sinks := .empty
  channels := fun _ ↦ .new
  opened := 0
  session := none
  presenting := none
  map := .empty
  surface := .empty

inductive DesktopLabel
  /-- a session is established -/
  | connected
  /-- the session reads an event; the notification daemon answers `Notify` -/
  | received (event : DisplayEvent) (notify : Except String UInt32)
  /-- `dispatch_toast` records the id -/
  | recorded
  /-- the session ends, by an error or a close frame or the end of the stream -/
  | disconnected
  /-- the writer task takes the oldest action -/
  | written
  /-- the writer task stops because the socket refuses a message -/
  | writerStopped
  /-- the user clicks a button, and enters a text when asked -/
  | clicked (notifId : UInt32) (actionKey : String) (collectReplyText : Except String String)
  /-- the toast leaves the surface -/
  | closed (notifId : UInt32)

namespace Desktop

def setChannel (s : Desktop) (id : ChannelId) (channel : Channel) : Desktop :=
  { s with channels := fun other ↦ if other = id then channel else s.channels other }

/-- `ActionSink::try_send`. -/
def trySend (s : Desktop) (sink : SinkId) (action : DisplayAction) : Except String Desktop :=
  match s.sinks.get sink with
  | none => .error "action sink unbound"
  | some id => ((s.channels id).trySend action).map (s.setChannel id)

variable (t : String → String) (wiring : Wiring)

/-- The session binds the client's sink to a new channel. -/
def connected (s : Desktop) : Option Desktop :=
  if s.session = none then
    some { s.setChannel s.opened .new with
      sinks := s.sinks.insert wiring.client s.opened
      opened := s.opened + 1
      session := some s.opened }
  else none

/-- The session hands an event to the backend and waits for `present`; the sink that it passes along
is not used. -/
def received (s : Desktop) (event : DisplayEvent) (notify : Except String UInt32) :
    Option Desktop :=
  if s.session = none ∨ s.presenting ≠ none then none
  else
    match present t event, notify with
    | .ok (some presentation), .ok notifId =>
      some { s with
        surface := s.surface.insert notifId presentation.toast
        presenting := some (notifId, presentation.ref) }
    | _, _ => some s

def recorded (s : Desktop) : Option Desktop :=
  s.presenting.map fun (notifId, ref) ↦
    { s with presenting := none, map := s.map.insert notifId ref }

/-- The session unbinds the client's sink and aborts the writer task. -/
def disconnected (s : Desktop) : Option Desktop :=
  if s.presenting ≠ none then none
  else s.session.map fun id ↦
    { s.setChannel id { s.channels id with receiving := false } with
      sinks := s.sinks.remove wiring.client
      session := none }

def written (s : Desktop) : Option Desktop :=
  s.session.map fun id ↦ s.setChannel id { s.channels id with queue := (s.channels id).queue.tail }

def writerStopped (s : Desktop) : Option Desktop :=
  s.session.map fun id ↦ s.setChannel id { s.channels id with receiving := false }

/-- The consumer of `ActionInvoked`; a failed send is only logged. -/
def clicked (s : Desktop) (notifId : UInt32) (actionKey : String)
    (collectReplyText : Except String String) : Desktop :=
  match actionInvoked s.map notifId actionKey collectReplyText with
  | none => s
  | some action => (s.trySend wiring.backend action).toOption.getD s

/-- The consumer of `NotificationClosed`. -/
def closed (s : Desktop) (notifId : UInt32) : Desktop :=
  { s with map := s.map.remove notifId, surface := s.surface.remove notifId }

def step (s : Desktop) : DesktopLabel → Option Desktop
  | .connected => s.connected wiring
  | .received event notify => s.received t event notify
  | .recorded => s.recorded
  | .disconnected => s.disconnected wiring
  | .written => s.written
  | .writerStopped => s.writerStopped
  | .clicked notifId actionKey collectReplyText =>
    some (s.clicked wiring notifId actionKey collectReplyText)
  | .closed notifId => some (s.closed notifId)

/-- The step is a click on a button that a toast on the surface offers, while a session is live. -/
structure LiveClick (s : Desktop) (label : DesktopLabel) (toast : MockToast) (channel : ChannelId) :
    Prop where
  session : s.session = some channel
  click : ∃ notifId actionKey collectReplyText, label = .clicked notifId actionKey collectReplyText ∧
    s.surface.get notifId = some toast ∧ actionKey ∈ toast.actions.map Prod.fst

/-- Exactly one action with the toast's ids is enqueued on the channel, and none on another. -/
structure Enqueued (before after : Desktop) (toast : MockToast) (channel : ChannelId)
    (action : DisplayAction) : Prop where
  envelopeId : action.envelopeId = toast.envelopeId
  deviceId : action.deviceId = toast.deviceId
  queue : (after.channels channel).queue = (before.channels channel).queue ++ [action]
  others : ∀ other, other ≠ channel → after.channels other = before.channels other

/-- A click on an offered button reaches the live session. -/
def Wired (s : Desktop) (label : DesktopLabel) : Prop :=
  ∀ toast channel, LiveClick s label toast channel →
    ∃ after action, step t wiring s label = some after ∧ Enqueued s after toast channel action

/-! ## The wiring of `main` -/

/-- Sending through a sink binds none. -/
theorem sinks_trySend {s after : Desktop} {sink : SinkId} {action : DisplayAction}
    (h : s.trySend sink action = .ok after) : after.sinks = s.sinks := by
  unfold trySend at h
  split at h
  · cases h
  · obtain ⟨channel, -, rfl⟩ := map_eq_ok.mp h
    rfl

theorem sinks_clicked (s : Desktop) (notifId : UInt32) (actionKey : String)
    (collectReplyText : Except String String) :
    (s.clicked wiring notifId actionKey collectReplyText).sinks = s.sinks := by
  unfold clicked
  split
  · rfl
  · next action haction =>
    cases hsend : s.trySend wiring.backend action with
    | error e => rfl
    | ok after => exact sinks_trySend hsend

/-- A step leaves every sink but the client's as it is. -/
theorem sinks_step {sink : SinkId} (hsink : sink ≠ wiring.client) {s after : Desktop}
    {label : DesktopLabel} (hstep : step t wiring s label = some after) :
    after.sinks.get sink = s.sinks.get sink := by
  cases label with
  | connected =>
    simp only [step, connected] at hstep
    split at hstep
    · cases hstep
      exact KeyMap.get_insert_of_ne _ _ hsink
    · cases hstep
  | received event notify =>
    simp only [step, received] at hstep
    split at hstep
    · cases hstep
    · split at hstep <;> cases hstep <;> rfl
  | recorded =>
    obtain ⟨toast, -, rfl⟩ := Option.map_eq_some_iff.mp hstep
    rfl
  | disconnected =>
    simp only [step, disconnected] at hstep
    split at hstep
    · cases hstep
    · obtain ⟨id, -, rfl⟩ := Option.map_eq_some_iff.mp hstep
      exact KeyMap.get_remove_of_ne _ hsink
  | written =>
    obtain ⟨id, -, rfl⟩ := Option.map_eq_some_iff.mp hstep
    rfl
  | writerStopped =>
    obtain ⟨id, -, rfl⟩ := Option.map_eq_some_iff.mp hstep
    rfl
  | clicked notifId actionKey collectReplyText =>
    cases hstep
    rw [sinks_clicked]
  | closed notifId =>
    cases hstep
    rfl

/-- Through an unbound sink no click reaches a channel. -/
theorem clicked_of_unbound {s : Desktop} (hunbound : s.sinks.get wiring.backend = none)
    (notifId : UInt32) (actionKey : String) (collectReplyText : Except String String) :
    s.clicked wiring notifId actionKey collectReplyText = s := by
  unfold clicked
  split
  · rfl
  · simp [trySend, hunbound, Except.toOption]

/-- With the backend's sink unbound, no button works while a session is live. -/
theorem wired_iff_of_unbound {s : Desktop} (hunbound : s.sinks.get wiring.backend = none)
    (label : DesktopLabel) :
    Wired t wiring s label ↔ ∀ toast channel, ¬ LiveClick s label toast channel := by
  constructor
  · intro hwired toast channel hclick
    obtain ⟨after, action, hstep, henqueued⟩ := hwired toast channel hclick
    obtain ⟨notifId, actionKey, collectReplyText, rfl, -⟩ := hclick.click
    rw [step, clicked_of_unbound wiring hunbound] at hstep
    cases hstep
    have hlength := congrArg List.length henqueued.queue
    simp at hlength
  · intro hnone toast channel hclick
    exact absurd hclick (hnone toast channel)

theorem backend_ne_client : mainWiring.backend ≠ mainWiring.client := by decide

/-- The buttons of a toast are wired in exactly those runs in which no button is clicked while a
session is live. -/
theorem toast_buttons_wired_iff (labels : List DesktopLabel) :
    Run.Throughout (step t mainWiring) (Wired t mainWiring) start labels ↔
      Run.Throughout (step t mainWiring)
        (fun s label ↦ ∀ toast channel, ¬ LiveClick s label toast channel) start labels := by
  apply Run.throughout_congr fun s ↦ s.sinks.get mainWiring.backend = none
  · intro s label after hunbound hstep
    rw [sinks_step t mainWiring backend_ne_client hstep, hunbound]
  · exact fun s label hunbound ↦ wired_iff_of_unbound t mainWiring hunbound label
  · rfl

/-! ## One sink for both -/

/-- With one sink for the backend and the client, a click on a recorded toast reaches the channel
that the sink is bound to, as long as the channel takes another action. -/
theorem clicked_of_shared {s : Desktop} {channel : ChannelId} {toast : MockToast} {r : NotifRef}
    {notifId : UInt32} {kind actionKey text : String}
    (hbound : s.sinks.get wiring.backend = some channel) (haccepts : (s.channels channel).Accepts)
    (hmap : s.map.get notifId = some r) (hids : r.envelopeId = toast.envelopeId ∧
      r.deviceId = toast.deviceId)
    (hkey : actionKey ∈ (actionListFor t kind).map Prod.fst) (htext : text ≠ "") :
    ∃ action, Enqueued s (s.clicked wiring notifId actionKey (.ok text)) toast channel action := by
  obtain ⟨action, haction, henvelope, hdevice⟩ := actionInvoked_of_offered hmap hkey htext
  have hsend : s.trySend wiring.backend action = .ok (s.setChannel channel { s.channels channel with
      queue := (s.channels channel).queue ++ [action] }) := by
    simp [trySend, hbound, Channel.trySend_eq_ok.mpr ⟨haccepts, rfl⟩, Except.map]
  have hclicked : s.clicked wiring notifId actionKey (.ok text) =
      s.setChannel channel { s.channels channel with
        queue := (s.channels channel).queue ++ [action] } := by
    simp [clicked, haction, hsend, Except.toOption]
  rw [hclicked]
  refine ⟨action, ?_⟩
  exact {
    envelopeId := by rw [henvelope, hids.1]
    deviceId := by rw [hdevice, hids.2]
    queue := by simp [setChannel]
    others := fun other hother ↦ by simp [setChannel, hother] }

/-! ## A session with one SMS -/

def sampleSms : SmsReceived where
  id := "17"
  address := "+491701234567"
  body := "hello"
  receivedAt := 1000
  simSlot := none
  subscriptionId := none

def sampleEvent : DisplayEvent where
  kind := "sms.received"
  deviceId := ⟨1⟩
  envelopeId := ⟨17⟩
  timestamp := 1000
  payload := sampleSms.toValue
  summary := .null

/-- The SMS is shown, and the user marks it as read. -/
def sampleRun : List DesktopLabel := [.connected, .received sampleEvent (.ok 1), .recorded,
  .clicked 1 "mark_read" (.error "")]

/-- The click is lost. -/
theorem mark_read_is_lost : ¬ ∀ (t : String → String) (labels : List DesktopLabel),
    Run.Throughout (step t mainWiring) (Wired t mainWiring) start labels := by
  intro h
  have hnone := (toast_buttons_wired_iff id sampleRun).mp (h id sampleRun)
  have hreceived := (hnone.2 _ rfl).2 _ rfl
  have hrecorded := hreceived.2 _ rfl
  apply hrecorded.1 (presentSms id ⟨17⟩ ⟨1⟩ sampleSms).toast 0
  exact { session := rfl, click := ⟨1, "mark_read", .error "", rfl, rfl, by decide⟩ }

end Desktop

end PhoneBridge.DeskDisplay
