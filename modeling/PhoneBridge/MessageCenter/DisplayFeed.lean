import PhoneBridge.Library.Conveyor
import PhoneBridge.Library.JsonLines
import PhoneBridge.Library.Reception
import PhoneBridge.MessageCenter.DisplaySubscribers

/-!
# The feeds of the display connections

`handle_display_socket` from the bus to the socket: the bus-bridge task receives from the bus and
puts each event into a channel of 64, from which the writer task takes it to send it as one line.
The reader loop aborts both when it ends. A step is what one task does between two suspension
points, and the connections run beside each other and beside the tasks that use the bus.
-/

namespace PhoneBridge.MessageCenter

open Library Broadcast Conveyor JsonLines Proto

/-- One display connection. -/
structure DisplayFeed where
  /-- how many events had been sent when it subscribed -/
  since : Nat
  bridgeRunning : Bool := true
  /-- the event that the bus-bridge task puts into the channel -/
  bridging : Option DisplayEvent := none
  /-- the channel between the tasks -/
  queued : List DisplayEvent := []
  writerRunning : Bool := true
  /-- the event that the writer task sends -/
  writing : Option DisplayEvent := none
  /-- the text frames that have been sent, oldest first -/
  frames : List String := []
  reading : Bool := true

/-- The display connections with the bus. -/
structure DisplaySockets where
  bus : BusRun
  feeds : KeyMap SubscriberId DisplayFeed

def DisplaySockets.new (capacity : Nat) : DisplaySockets where
  bus := .new capacity
  feeds := .empty

/-- What a task of a connection does on its own. -/
inductive FeedStep
  /-- the channel takes the event of the bus-bridge task -/
  | enqueue
  /-- the bus-bridge task finds the writer gone -/
  | bridgeBreaks
  /-- the writer task takes an event out of the channel -/
  | dequeue
  | write
  /-- the socket refuses the line of the writer task, which drops the channel -/
  | writeFails
  /-- the writer task finds the channel empty and the bus-bridge task gone -/
  | writerReturns
  /-- the reader loop ends -/
  | readerEnds
  /-- `writer.abort()` takes effect -/
  | abortWriter
  /-- `bus_bridge.abort()` takes effect -/
  | abortBridge

inductive SocketLabel
  /-- what another task does with the bus -/
  | bus (label : BusLabel)
  /-- a connection has subscribed, and spawns its tasks -/
  | accept (subscriber : SubscriberId)
  /-- the bus-bridge task receives, or learns that it lagged -/
  | bridgeRecv (subscriber : SubscriberId)
  | task (subscriber : SubscriberId) (act : FeedStep)

namespace DisplayFeed

/-- The channel between the two tasks of a connection holds this many events. -/
def channelCapacity : Nat := 64

variable (toStr : DisplayEvent → String)

/-- The event of a receipt; after a lag the bus-bridge task only logs. -/
def receive (feed : DisplayFeed) (receipt : Receipt DisplayEvent) : DisplayFeed :=
  { feed with bridging := receipt.received }

def enqueue (feed : DisplayFeed) : Option DisplayFeed :=
  feed.bridging.bind fun event ↦
    if feed.writerRunning = true ∧ feed.queued.length < channelCapacity then
      some { feed with bridging := none, queued := feed.queued ++ [event] }
    else none

def bridgeBreaks (feed : DisplayFeed) : Option DisplayFeed :=
  if feed.bridging.isSome = true ∧ feed.writerRunning = false then
    some { feed with bridging := none, bridgeRunning := false }
  else none

def dequeue (feed : DisplayFeed) : Option DisplayFeed :=
  match feed.writerRunning, feed.writing, feed.queued with
  | true, none, event :: queued => some { feed with writing := some event, queued }
  | _, _, _ => none

def write (feed : DisplayFeed) : Option DisplayFeed :=
  if feed.writerRunning = true then
    feed.writing.map fun event ↦
      { feed with writing := none, frames := feed.frames ++ [line toStr event] }
  else none

/-- The writer task ends and drops its end of the channel. -/
def dropWriter (feed : DisplayFeed) : DisplayFeed :=
  { feed with writing := none, queued := [], writerRunning := false }

def writeFails (feed : DisplayFeed) : Option DisplayFeed :=
  if feed.writerRunning = true ∧ feed.writing.isSome = true then some feed.dropWriter else none

def writerReturns (feed : DisplayFeed) : Option DisplayFeed :=
  if feed.writerRunning = true ∧ feed.bridgeRunning = false ∧ feed.writing = none ∧
      feed.queued = [] then
    some feed.dropWriter
  else none

def readerEnds (feed : DisplayFeed) : Option DisplayFeed := some { feed with reading := false }

def abortWriter (feed : DisplayFeed) : Option DisplayFeed :=
  if feed.reading then none else some feed.dropWriter

def abortBridge (feed : DisplayFeed) : Option DisplayFeed :=
  if feed.reading then none else some { feed with bridging := none, bridgeRunning := false }

def perform (feed : DisplayFeed) : FeedStep → Option DisplayFeed
  | .enqueue => feed.enqueue
  | .bridgeBreaks => feed.bridgeBreaks
  | .dequeue => feed.dequeue
  | .write => feed.write toStr
  | .writeFails => feed.writeFails
  | .writerReturns => feed.writerReturns
  | .readerEnds => feed.readerEnds
  | .abortWriter => feed.abortWriter
  | .abortBridge => feed.abortBridge

end DisplayFeed

namespace DisplaySockets

/-- Only a bus-bridge task receives, and its subscriber is dropped when it has ended. -/
def admits (s : DisplaySockets) : BusLabel → Bool
  | .recv _ => false
  | .uncount _ subscriber =>
    ((s.feeds.get subscriber).map fun feed ↦ !feed.bridgeRunning).getD false
  | _ => true

def accept (s : DisplaySockets) (x : SubscriberId) : Option DisplaySockets :=
  if x ∈ s.bus.live ∧ s.feeds.get x = none then
    (s.bus.channel.receivers.get x).map fun receiver ↦
      { s with feeds := s.feeds.insert x { since := receiver.next } }
  else none

/-- The bus-bridge task is between two events. -/
def bridgeRecv (s : DisplaySockets) (x : SubscriberId) : Option DisplaySockets :=
  (s.feeds.get x).bind fun feed ↦
    if feed.bridgeRunning = true ∧ feed.bridging = none then
      (s.bus.recv x).bind fun bus ↦
        (bus.channel.receivers.get x).bind fun receiver ↦
          receiver.receipts.head?.map fun receipt ↦
            { bus, feeds := s.feeds.insert x (feed.receive receipt) }
    else none

def step (toStr : DisplayEvent → String) (s : DisplaySockets) :
    SocketLabel → Option DisplaySockets
  | .bus label =>
    if s.admits label then (s.bus.step label).map fun bus ↦ { s with bus } else none
  | .accept x => s.accept x
  | .bridgeRecv x => s.bridgeRecv x
  | .task x act =>
    (s.feeds.get x).bind fun feed ↦
      (feed.perform toStr act).map fun feed ↦ { s with feeds := s.feeds.insert x feed }

end DisplaySockets

/-! ## One connection -/

namespace DisplayFeed

/-- What the tasks of a connection hold and can still send, oldest first. -/
def carried (feed : DisplayFeed) : List DisplayEvent :=
  if feed.writerRunning then feed.writing.toList ++ feed.queued ++ feed.bridging.toList else []

/-- No event is lost on the way as long as both tasks run. -/
def Intact (feed : DisplayFeed) : Prop :=
  feed.bridgeRunning = true ∧ feed.writerRunning = true

/-- The frames are the lines of events, and these with the ones carried come from `received`. -/
structure Relays (toStr : DisplayEvent → String) (since : Nat) (received : List DisplayEvent)
    (feed : DisplayFeed) : Prop where
  subscribed : feed.since = since
  conveys : ∃ written, feed.frames = written.map (line toStr) ∧
    Conveys feed.Intact received written feed.carried
  bounded : feed.queued.length ≤ channelCapacity

variable {toStr : DisplayEvent → String} {since : Nat} {received : List DisplayEvent}
  {feed feed' : DisplayFeed}

theorem relays_accepted (since : Nat) : Relays toStr since [] { since } where
  subscribed := rfl
  conveys := ⟨[], rfl, .start _⟩
  bounded := Nat.zero_le _

/-- A reception hands the event to the bus-bridge task. -/
theorem relays_receive (h : feed.Relays toStr since received) (hrunning : feed.bridgeRunning = true)
    (hfree : feed.bridging = none) (receipt : Receipt DisplayEvent) :
    (feed.receive receipt).Relays toStr since (received ++ receipt.received.toList) where
  subscribed := h.subscribed
  conveys := by
    obtain ⟨written, hframes, hconveys⟩ := h.conveys
    refine ⟨written, hframes, ?_⟩
    cases hevent : receipt.received with
    | none =>
      have hsame : feed.receive receipt = feed := by
        rw [receive, hevent, ← hfree]
      rw [hsame, Option.toList_none, List.append_nil]
      exact hconveys
    | some event =>
      cases hwriter : feed.writerRunning with
      | true =>
        have hcarried : (feed.receive receipt).carried = feed.carried ++ [event] := by
          simp [carried, receive, hevent, hwriter, hfree]
        rw [hcarried]
        exact hconveys.enter ⟨hrunning, hwriter⟩ event
      | false =>
        have hcarried : (feed.receive receipt).carried = feed.carried := by
          simp [carried, receive, hwriter]
        rw [hcarried]
        refine hconveys.refuse ?_ [event]
        rintro ⟨-, hstill⟩
        exact absurd (hwriter.symm.trans hstill) (by decide)
  bounded := h.bounded

/-- A step that only moves events along. -/
theorem Relays.moved (h : feed.Relays toStr since received) (hsince : feed'.since = feed.since)
    (hframes : feed'.frames = feed.frames) (hcarried : feed'.carried = feed.carried)
    (hintact : feed'.Intact → feed.Intact)
    (hbounded : feed'.queued.length ≤ channelCapacity) :
    feed'.Relays toStr since received where
  subscribed := hsince.trans h.subscribed
  conveys := by
    obtain ⟨written, hwritten, hconveys⟩ := h.conveys
    exact ⟨written, hframes.trans hwritten, hcarried ▸ hconveys.mono hintact⟩
  bounded := hbounded

theorem relays_enqueue (h : feed.Relays toStr since received) (hstep : feed.enqueue = some feed') :
    feed'.Relays toStr since received := by
  obtain ⟨event, hevent, hstep⟩ := Option.bind_eq_some_iff.mp hstep
  obtain ⟨⟨hwriter, hroom⟩, hfeed⟩ := Option.ite_none_right_eq_some.mp hstep
  cases hfeed
  refine h.moved rfl rfl ?_ id ?_
  · simp [carried, hwriter, hevent]
  · rw [List.length_append]
    exact hroom

theorem relays_dequeue (h : feed.Relays toStr since received) (hstep : feed.dequeue = some feed') :
    feed'.Relays toStr since received := by
  unfold dequeue at hstep
  split at hstep
  · next event queued hwriter hwriting hqueued =>
    cases hstep
    refine h.moved rfl rfl ?_ id ?_
    · simp [carried, hwriter, hwriting, hqueued]
    · have hbounded := h.bounded
      rw [hqueued] at hbounded
      exact (Nat.le_succ _).trans hbounded
  · cases hstep

theorem relays_write (h : feed.Relays toStr since received)
    (hstep : feed.write toStr = some feed') :
    feed'.Relays toStr since received := by
  obtain ⟨hwriter, hstep⟩ := Option.ite_none_right_eq_some.mp hstep
  obtain ⟨event, hwriting, rfl⟩ := Option.map_eq_some_iff.mp hstep
  obtain ⟨written, hframes, hconveys⟩ := h.conveys
  exact {
    subscribed := h.subscribed
    conveys := by
      refine ⟨written ++ [event], ?_, hconveys.move ?_⟩
      · rw [hframes, List.map_append, List.map_singleton]
      · simp [carried, hwriter, hwriting]
    bounded := h.bounded }

/-- The writer task may end at any time; what is carried is lost. -/
theorem relays_dropWriter (h : feed.Relays toStr since received) :
    feed.dropWriter.Relays toStr since received where
  subscribed := h.subscribed
  conveys := by
    obtain ⟨written, hframes, hconveys⟩ := h.conveys
    refine ⟨written, hframes, hconveys.drop ?_ List.nil_prefix⟩
    exact fun hintact ↦ Bool.false_ne_true hintact.2
  bounded := Nat.zero_le _

/-- The bus-bridge task ends, and its event is lost. -/
theorem relays_dropBridge (h : feed.Relays toStr since received) :
    ({ feed with bridging := none, bridgeRunning := false } : DisplayFeed).Relays toStr since
      received where
  subscribed := h.subscribed
  conveys := by
    obtain ⟨written, hframes, hconveys⟩ := h.conveys
    refine ⟨written, hframes, hconveys.drop ?_ ?_⟩
    · exact fun hintact ↦ Bool.false_ne_true hintact.1
    · unfold carried
      cases feed.writerRunning with
      | true => simp
      | false => exact List.prefix_refl _
  bounded := h.bounded

/-- Whatever a task of the connection does, the frames stay in order. -/
theorem relays_perform {act : FeedStep} (h : feed.Relays toStr since received)
    (hstep : feed.perform toStr act = some feed') : feed'.Relays toStr since received := by
  cases act with
  | enqueue => exact relays_enqueue h hstep
  | bridgeBreaks =>
    obtain ⟨-, hfeed⟩ := Option.ite_none_right_eq_some.mp hstep
    cases hfeed
    exact relays_dropBridge h
  | dequeue => exact relays_dequeue h hstep
  | write => exact relays_write h hstep
  | writeFails =>
    obtain ⟨-, hfeed⟩ := Option.ite_none_right_eq_some.mp hstep
    cases hfeed
    exact relays_dropWriter h
  | writerReturns =>
    obtain ⟨-, hfeed⟩ := Option.ite_none_right_eq_some.mp hstep
    cases hfeed
    exact relays_dropWriter h
  | readerEnds =>
    cases hstep
    exact h.moved rfl rfl rfl id h.bounded
  | abortWriter =>
    obtain ⟨-, hfeed⟩ := Option.ite_none_left_eq_some.mp hstep
    cases hfeed
    exact relays_dropWriter h
  | abortBridge =>
    obtain ⟨-, hfeed⟩ := Option.ite_none_left_eq_some.mp hstep
    cases hfeed
    exact relays_dropBridge h

/-- The tasks of a connection hold at most 66 events. -/
theorem Relays.length_carried_le (h : feed.Relays toStr since received) :
    feed.carried.length ≤ channelCapacity + 2 := by
  have hbounded := h.bounded
  have hwriting : feed.writing.toList.length ≤ 1 := by cases feed.writing <;> simp
  have hbridging : feed.bridging.toList.length ≤ 1 := by cases feed.bridging <;> simp
  unfold carried
  split_ifs
  · simp only [List.length_append]
    omega
  · exact Nat.zero_le _

end DisplayFeed

/-! ## The bus -/

/-- What a step of the bus means for the receivers, unless one of them receives: those that are open
stay as they are, and a new one stands at the end of what has been sent. -/
theorem BusRun.receivers_step {s t : BusRun} {label : BusLabel} (hs : s.Wired)
    (hlabel : ∀ x, label ≠ .recv x) (h : s.step label = some t) :
    t.channel.capacity = s.channel.capacity ∧ s.channel.sent <+: t.channel.sent ∧
      ∀ x, t.channel.receivers.get x = s.channel.receivers.get x ∨
        s.channel.receivers.get x = none ∧
          t.channel.receivers.get x = some { next := s.channel.sent.length, receipts := [] } := by
  have hsame (hchannel : t.channel = s.channel) :
      t.channel.capacity = s.channel.capacity ∧ s.channel.sent <+: t.channel.sent ∧
        ∀ x, t.channel.receivers.get x = s.channel.receivers.get x ∨
          s.channel.receivers.get x = none ∧
            t.channel.receivers.get x = some { next := s.channel.sent.length, receipts := [] } := by
    rw [hchannel]
    exact ⟨rfl, List.prefix_refl _, fun x ↦ .inl rfl⟩
  cases label with
  | recv x => exact absurd rfl (hlabel x)
  | openReceiver task =>
    simp only [step, openReceiver] at h
    split at h
    · next y hstage =>
      cases h
      refine ⟨rfl, List.prefix_refl _, fun x ↦ ?_⟩
      by_cases hxy : x = y
      · subst hxy
        exact .inr ⟨hs.unopened task x hstage, KeyMap.get_insert_self _ _ _⟩
      · exact .inl (KeyMap.get_insert_of_ne _ _ hxy)
    · cases h
  | send task =>
    simp only [step, send] at h
    split at h
    · cases h
      exact ⟨Channel.capacity_send _ _, Channel.sent_prefix_send _ _,
        fun x ↦ .inl (by rw [Channel.receivers_send])⟩
    · cases h
  | count task x =>
    obtain ⟨-, ht⟩ := Option.ite_none_right_eq_some.mp h
    exact hsame (by cases ht; rfl)
  | uncount task x =>
    obtain ⟨-, ht⟩ := Option.ite_none_right_eq_some.mp h
    exact hsame (by cases ht; rfl)
  | publish task event =>
    obtain ⟨-, ht⟩ := Option.ite_none_right_eq_some.mp h
    exact hsame (by cases ht; rfl)
  | returnSubscriber task =>
    simp only [step, returnSubscriber] at h
    split at h
    · exact hsame (by cases h; rfl)
    · cases h
  | unlock task =>
    simp only [step, unlock] at h
    split at h
    · exact hsame (by cases h; rfl)
    · cases h
  | closeReceiver task =>
    simp only [step, closeReceiver] at h
    split at h
    · cases h
      exact ⟨rfl, List.prefix_refl _, fun x ↦ .inl rfl⟩
    · cases h
  | check task =>
    simp only [step, check] at h
    split at h
    · split_ifs at h
      · exact hsame (by cases h; rfl)
      · exact hsame (by cases h; rfl)
    · cases h

/-! ## All connections -/

namespace DisplaySockets

variable {toStr : DisplayEvent → String} {s t : DisplaySockets} {x : SubscriberId}

/-- The receiver of each connection accounts for what has been sent since it subscribed, and its
tasks relay what the receiver has received. -/
structure Inv (toStr : DisplayEvent → String) (s : DisplaySockets) : Prop where
  roster : s.bus.Roster
  wired : s.bus.Wired
  fresh : ∀ x receiver, s.feeds.get x = none → s.bus.channel.receivers.get x = some receiver →
    receiver.receipts = [] ∧ receiver.next ≤ s.bus.channel.sent.length
  fed : ∀ x feed, s.feeds.get x = some feed → ∃ receiver,
    s.bus.channel.receivers.get x = some receiver ∧
      s.bus.channel.Accounts receiver feed.since ∧ feed.Relays toStr feed.since receiver.events

theorem inv_new (capacity : Nat) : (new capacity).Inv toStr where
  roster := BusRun.roster_new capacity
  wired := BusRun.wired_new capacity
  fresh x receiver _ h := by cases h
  fed x feed h := by cases h

theorem inv_bus {label : BusLabel} {bus : BusRun} (hs : s.Inv toStr)
    (hadmits : s.admits label = true) (h : s.bus.step label = some bus) :
    Inv toStr { s with bus } := by
  have hlabel : ∀ x, label ≠ .recv x := by
    rintro x rfl
    cases hadmits
  obtain ⟨hcapacity, hsent, hreceivers⟩ := BusRun.receivers_step hs.wired hlabel h
  exact {
    roster := BusRun.roster_step hs.roster h
    wired := BusRun.wired_step hs.roster hs.wired h
    fresh := by
      intro x receiver hfeed hget
      rcases hreceivers x with hsame | ⟨-, hnew⟩
      · obtain ⟨hreceipts, hnext⟩ := hs.fresh x receiver hfeed (hsame.symm.trans hget)
        exact ⟨hreceipts, Nat.le_trans hnext hsent.length_le⟩
      · obtain rfl := Option.some.inj (hnew.symm.trans hget)
        exact ⟨rfl, hsent.length_le⟩
    fed := by
      intro x feed hfeed
      obtain ⟨receiver, hget, haccounts, hrelays⟩ := hs.fed x feed hfeed
      refine ⟨receiver, ?_, haccounts.of_sent hcapacity hsent, hrelays⟩
      rcases hreceivers x with hsame | ⟨hnone, -⟩
      · exact hsame.trans hget
      · cases hnone.symm.trans hget }

theorem inv_accept (hs : s.Inv toStr) (h : s.accept x = some t) : t.Inv toStr := by
  obtain ⟨⟨-, hfeed⟩, h⟩ := Option.ite_none_right_eq_some.mp h
  obtain ⟨receiver, hget, rfl⟩ := Option.map_eq_some_iff.mp h
  obtain ⟨hreceipts, hnext⟩ := hs.fresh x receiver hfeed hget
  exact {
    roster := hs.roster
    wired := hs.wired
    fresh := by
      intro y other hother
      rw [KeyMap.get_insert] at hother
      split_ifs at hother with hyx
      exact hs.fresh y other hother
    fed := by
      intro y feed hinserted
      rcases KeyMap.get_insert_eq_some.mp hinserted with ⟨rfl, rfl⟩ | ⟨-, hold⟩
      · obtain ⟨next, receipts⟩ := receiver
        cases hreceipts
        exact ⟨_, hget, Channel.accounts_opened hnext, DisplayFeed.relays_accepted next⟩
      · exact hs.fed y feed hold }

theorem inv_bridgeRecv (hs : s.Inv toStr) (h : s.bridgeRecv x = some t) : t.Inv toStr := by
  obtain ⟨feed, hfeed, h⟩ := Option.bind_eq_some_iff.mp h
  obtain ⟨⟨hrunning, hfree⟩, h⟩ := Option.ite_none_right_eq_some.mp h
  obtain ⟨bus, hbus, h⟩ := Option.bind_eq_some_iff.mp h
  obtain ⟨after, hafter, h⟩ := Option.bind_eq_some_iff.mp h
  obtain ⟨receipt, hreceipt, rfl⟩ := Option.map_eq_some_iff.mp h
  obtain ⟨receiver, hget, haccounts, hrelays⟩ := hs.fed x feed hfeed
  have hroster := BusRun.roster_recv hs.roster hbus
  have hwired := BusRun.wired_recv hs.wired hbus
  obtain ⟨-, hbus⟩ := Option.ite_none_right_eq_some.mp hbus
  obtain ⟨channel, hrecv, rfl⟩ := Option.map_eq_some_iff.mp hbus
  obtain ⟨same, next, latest, hsame, rfl, hcase⟩ := Channel.recv_cases hrecv
  obtain rfl := Option.some.inj (hget.symm.trans hsame)
  obtain rfl := Option.some.inj ((KeyMap.get_insert_self _ _ _).symm.trans hafter)
  obtain rfl := Option.some.inj hreceipt
  have hreceived := haccounts.received hcase
  exact {
    roster := hroster
    wired := hwired
    fresh := by
      intro y other hother hinserted
      have hyx : y ≠ x := by
        rintro rfl
        rw [KeyMap.get_insert_self] at hother
        cases hother
      refine hs.fresh y other ?_ ?_
      · exact (KeyMap.get_insert_of_ne _ _ hyx).symm.trans hother
      · exact (KeyMap.get_insert_of_ne _ _ hyx).symm.trans hinserted
    fed := by
      intro y other hinserted
      rcases KeyMap.get_insert_eq_some.mp hinserted with ⟨rfl, rfl⟩ | ⟨hyx, hold⟩
      · refine ⟨_, KeyMap.get_insert_self _ _ _, hreceived.of_sent rfl (List.prefix_refl _), ?_⟩
        rw [Receiver.events_cons]
        exact DisplayFeed.relays_receive hrelays hrunning hfree latest
      · obtain ⟨theirs, htheirs, haccounts, hrelays⟩ := hs.fed y other hold
        exact ⟨theirs, (KeyMap.get_insert_of_ne _ _ hyx).trans htheirs,
          haccounts.of_sent rfl (List.prefix_refl _), hrelays⟩ }

theorem inv_task {feed feed' : DisplayFeed} {act : FeedStep} (hs : s.Inv toStr)
    (hfeed : s.feeds.get x = some feed) (hstep : feed.perform toStr act = some feed') :
    Inv toStr { s with feeds := s.feeds.insert x feed' } where
  roster := hs.roster
  wired := hs.wired
  fresh := by
    intro y receiver hother
    rw [KeyMap.get_insert] at hother
    split_ifs at hother with hyx
    exact hs.fresh y receiver hother
  fed := by
    intro y other hinserted
    rcases KeyMap.get_insert_eq_some.mp hinserted with ⟨rfl, rfl⟩ | ⟨-, hold⟩
    · obtain ⟨receiver, hget, haccounts, hrelays⟩ := hs.fed y feed hfeed
      have hafter := DisplayFeed.relays_perform hrelays hstep
      refine ⟨receiver, hget, ?_, ?_⟩
      · rw [hafter.subscribed]
        exact haccounts
      · rw [hafter.subscribed]
        exact hafter
    · exact hs.fed y other hold

theorem inv_step {label : SocketLabel} (hs : s.Inv toStr) (h : s.step toStr label = some t) :
    t.Inv toStr := by
  cases label with
  | bus label =>
    obtain ⟨hadmits, h⟩ := Option.ite_none_right_eq_some.mp h
    obtain ⟨bus, hbus, rfl⟩ := Option.map_eq_some_iff.mp h
    exact inv_bus hs hadmits hbus
  | accept x => exact inv_accept hs h
  | bridgeRecv x => exact inv_bridgeRecv hs h
  | task x act =>
    obtain ⟨feed, hfeed, h⟩ := Option.bind_eq_some_iff.mp h
    obtain ⟨feed', hstep, rfl⟩ := Option.map_eq_some_iff.mp h
    exact inv_task hs hfeed hstep

/-- In every interleaving, whatever the other connections do. -/
theorem inv_run {capacity : Nat} {labels : List SocketLabel}
    (hrun : Run.exec (step toStr) (new capacity) labels = some t) : t.Inv toStr :=
  Run.invariant (Inv toStr) (fun _ _ _ ↦ inv_step) hrun (inv_new capacity)

end DisplaySockets

/-- What a connection has sent, next to what the bus has sent since it subscribed. -/
structure DisplayFeed.Serves (toStr : DisplayEvent → String)
    (channel : Channel SubscriberId DisplayEvent) (receiver : Receiver DisplayEvent)
    (feed : DisplayFeed) (written : List DisplayEvent) : Prop where
  /-- the frames are the lines of these events -/
  frames : feed.frames = written.map (line toStr)
  /-- they are in the order of the bus, each once -/
  ordered : written.Sublist (channel.sent.drop feed.since)
  /-- each event since then is received, lost by a lag that the connection is told of, or to come -/
  accounted : channel.Accounts receiver feed.since
  /-- nothing is lost between the bus and the socket while the tasks run -/
  complete : feed.Intact → ¬ receiver.Lagged →
    written ++ feed.carried ++ channel.sent.drop receiver.next = channel.sent.drop feed.since
  bounded : feed.carried.length ≤ channelCapacity + 2

/-- What the invariant says about a connection. -/
theorem DisplaySockets.Inv.serves {toStr : DisplayEvent → String} {t : DisplaySockets}
    (ht : t.Inv toStr) {x : SubscriberId} {feed : DisplayFeed} (hfeed : t.feeds.get x = some feed) :
    ∃ receiver written, t.bus.channel.receivers.get x = some receiver ∧
      feed.Serves toStr t.bus.channel receiver written := by
  obtain ⟨receiver, hget, haccounts, hrelays⟩ := ht.fed x feed hfeed
  obtain ⟨written, hframes, hconveys⟩ := hrelays.conveys
  refine ⟨receiver, written, hget, {
    frames := hframes
    ordered := haccounts.left_sublist hconveys
    accounted := haccounts
    complete := haccounts.complete hconveys
    bounded := hrelays.length_carried_le }⟩

end PhoneBridge.MessageCenter
