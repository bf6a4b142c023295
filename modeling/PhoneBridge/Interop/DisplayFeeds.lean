import PhoneBridge.DeskDisplay.DisplayClient
import PhoneBridge.MessageCenter.DisplayFeed

/-!
# From the bus to the screen

The feed of a display connection in the center together with the reader of the display: what the
display hands to its backend are the events of the bus.
-/

namespace PhoneBridge.Interop

open Library JsonLines Proto MessageCenter DeskDisplay

/-- The texts that the reader of the display gets before it stops. -/
def texts : List Received → List String
  | .text t :: messages => t :: texts messages
  | .binary :: messages | .other :: messages => texts messages
  | .error _ :: _ | .close :: _ | [] => []

/-- The display hands the events of the texts to its backend, however the session ends. -/
theorem events_readLoop (fromStr : String → Except SerdeError DisplayEvent)
    (messages : List Received) :
    (readLoop fromStr messages).1 = (texts messages).flatMap (valuesOf fromStr) := by
  induction messages with
  | nil => rfl
  | cons message messages ih =>
    cases message with
    | text t =>
      rw [texts, List.flatMap_cons, ← ih]
      rfl
    | binary => exact ih
    | other => exact ih
    | error e => rfl
    | close => rfl

/-- In every run of the center, a display that has read some of the frames of its connection has
handed to its backend the events of these frames. They are events that the bus has sent since the
connection subscribed, in their order and none twice. The others are ones that the connection was
told it was too late for, and at most 66 that it holds. -/
theorem displays_present_in_order (toStr : DisplayEvent → String)
    (fromStr : String → Except SerdeError DisplayEvent) (capacity : Nat)
    (labels : List SocketLabel) (t : DisplaySockets)
    (hrun : Run.exec (DisplaySockets.step toStr) (.new capacity) labels = some t)
    (hserde : ∀ event ∈ t.bus.channel.sent, ReadsBack toStr fromStr event)
    (x : SubscriberId) (feed : DisplayFeed) (hfeed : t.feeds.get x = some feed)
    (messages : List Received) (hread : texts messages <+: feed.frames) :
    ∃ receiver written, t.bus.channel.receivers.get x = some receiver ∧
      feed.Serves toStr t.bus.channel receiver written ∧
      (readLoop fromStr messages).1 = written.take (texts messages).length := by
  obtain ⟨receiver, written, hget, hserves⟩ := (DisplaySockets.inv_run hrun).serves hfeed
  refine ⟨receiver, written, hget, hserves, ?_⟩
  have hsent : ∀ event ∈ written.take (texts messages).length, ReadsBack toStr fromStr event :=
    fun event hevent ↦
      hserde event (List.mem_of_mem_drop (hserves.ordered.subset (List.mem_of_mem_take hevent)))
  rw [hserves.frames] at hread
  have htexts : texts messages = (written.take (texts messages).length).map (line toStr) := by
    rw [List.map_take]
    exact List.prefix_iff_eq_take.mp hread
  calc
    _ = (texts messages).flatMap (valuesOf fromStr) := events_readLoop fromStr messages
    _ = ((written.take (texts messages).length).map (line toStr)).flatMap (valuesOf fromStr) :=
      congrArg _ htexts
    _ = _ := flatMap_valuesOf_line hsent

/-- One event goes from the bus to the socket of a display. -/
def oneEventSent : List SocketLabel :=
  [.bus (.count 0 0), .bus (.openReceiver 0), .bus (.returnSubscriber 0), .accept 0,
    .bus (.publish 1 samplePhoneGone), .bus (.check 1), .bus (.send 1), .bridgeRecv 0,
    .task 0 .enqueue, .task 0 .dequeue, .task 0 .write]

def samplePhoneGoneJson : String :=
  "\x7b\"kind\":\"phone.offline\",\"device_id\":\"00000000-0000-0000-0000-000000000000\"," ++
  "\"envelope_id\":\"00000000-0000-0000-0000-000000000000\",\"timestamp\":0," ++
  "\"payload\":null,\"summary\":null\x7d"

def printSample (_ : DisplayEvent) : String := samplePhoneGoneJson

def parseSample (s : String) : Except SerdeError DisplayEvent :=
  if s = samplePhoneGoneJson then .ok samplePhoneGone
  else .error (.invalidType "struct DisplayEvent")

theorem readsBack_sample : ReadsBack printSample parseSample samplePhoneGone where
  oneLine := by decide +kernel
  bare := by decide +kernel
  parsed := ⟨by decide +kernel, if_pos rfl⟩

theorem displays_present_in_order_sample : ∃ t feed receiver written,
    Run.exec (DisplaySockets.step printSample) (.new 1024) oneEventSent = some t ∧
      t.feeds.get 0 = some feed ∧ t.bus.channel.receivers.get 0 = some receiver ∧
      feed.Serves printSample t.bus.channel receiver written ∧
      (readLoop parseSample [.text (line printSample samplePhoneGone), .close]).1 =
        written.take 1 := by
  have hsent : ∃ t, Run.exec (DisplaySockets.step printSample) (.new 1024) oneEventSent = some t ∧
      t.bus.channel.sent = [samplePhoneGone] ∧ ∃ feed, t.feeds.get 0 = some feed ∧
        feed.frames = [line printSample samplePhoneGone] :=
    ⟨_, rfl, rfl, _, rfl, rfl⟩
  obtain ⟨t, hrun, hbus, feed, hfeed, hframes⟩ := hsent
  have hserde : ∀ event ∈ t.bus.channel.sent, ReadsBack printSample parseSample event := by
    rw [hbus]
    intro event hevent
    rw [List.mem_singleton.mp hevent]
    exact readsBack_sample
  obtain ⟨receiver, written, hget, hserves, hevents⟩ :=
    displays_present_in_order printSample parseSample 1024 oneEventSent t hrun hserde 0 feed hfeed
      [.text (line printSample samplePhoneGone), .close] (hframes ▸ List.prefix_refl _)
  exact ⟨t, feed, receiver, written, hrun, hfeed, hget, hserves, hevents⟩

end PhoneBridge.Interop
