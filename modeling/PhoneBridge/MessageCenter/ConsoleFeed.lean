import PhoneBridge.Library.Reception
import PhoneBridge.Library.Run
import PhoneBridge.MessageCenter.ConsoleBus

/-!
# The live feeds of the console

`ConsoleBus` and the loop behind `/ws/console`, which is the same in `run_console_axum` and in
`run_console_ws`: it subscribes, greets the client, and forwards events until the client is gone. A
step is what one task does between two operations on what the tasks share.
-/

namespace PhoneBridge.MessageCenter

open Library Broadcast Conveyor Proto

abbrev ConsoleId := Nat

/-- A text frame of the console. -/
inductive ConsoleFrame
  | hello (timestamp : Int64)
  | event (e : ConsoleEvent)

/-- The JSON object of a frame; the version is the one of the package. -/
def ConsoleFrame.json (version : String) : ConsoleFrame → Json
  | .hello timestamp => .obj [
      ("kind", .str "console.hello"),
      ("device_id", .str Uuid.nil.toText),
      ("envelope_id", .str Uuid.nil.toText),
      ("timestamp", .int timestamp.toInt),
      ("summary", .obj [("server", .str "message-center"), ("version", .str version)])]
  | .event e => .obj [
      ("kind", .str e.kind),
      ("device_id", .str e.deviceId.toText),
      ("envelope_id", .str e.envelopeId.toText),
      ("timestamp", .int e.timestamp.toInt),
      ("summary", e.summary)]

/-- The event that a frame brings. -/
def ConsoleFrame.event? : ConsoleFrame → Option ConsoleEvent
  | .hello _ => none
  | .event e => some e

/-- Where the task of a connection stands. -/
inductive ConsoleStage
  /-- the receiver is open, and is to be counted -/
  | subscribing
  | greeting
  | listening
  | sending (e : ConsoleEvent)
  /-- the loop has ended, and the subscriber is to be uncounted -/
  | leaving
  /-- the receiver is to be closed -/
  | closing
  | gone

/-- One connection of the console. -/
structure ConsoleFeed where
  /-- how many events had been sent when it subscribed -/
  since : Nat
  stage : ConsoleStage := .subscribing
  /-- the text frames that have been sent, oldest first -/
  frames : List ConsoleFrame := []

/-- The bus with its connections. -/
structure ConsoleSockets where
  channel : Channel ConsoleId ConsoleEvent
  subscriberCount : Nat
  feeds : KeyMap ConsoleId ConsoleFeed

def ConsoleSockets.new (capacity : Nat) : ConsoleSockets where
  channel := .empty capacity
  subscriberCount := 0
  feeds := .empty

/-- What the task of a connection does without the channel. -/
inductive ConsoleAct
  | count
  /-- the socket takes the greeting -/
  | greet (timestamp : Int64)
  | greetFails
  | send
  | sendFails
  /-- the client is gone, or a frame of it is broken -/
  | hangUp
  | uncount

inductive ConsoleLabel
  | publish (e : ConsoleEvent)
  | subscribe (x : ConsoleId)
  /-- the loop receives from the bus, or learns that it lagged -/
  | recv (x : ConsoleId)
  | task (x : ConsoleId) (act : ConsoleAct)
  | close (x : ConsoleId)

namespace ConsoleFeed

def perform (feed : ConsoleFeed) (act : ConsoleAct) : Option ConsoleFeed :=
  match act, feed.stage with
  | .count, .subscribing => some { feed with stage := .greeting }
  | .greet timestamp, .greeting =>
    some { feed with stage := .listening, frames := feed.frames ++ [.hello timestamp] }
  | .greetFails, .greeting => some { feed with stage := .leaving }
  | .send, .sending e =>
    some { feed with stage := .listening, frames := feed.frames ++ [.event e] }
  | .sendFails, .sending _ => some { feed with stage := .leaving }
  | .hangUp, .listening => some { feed with stage := .leaving }
  | .uncount, .leaving => some { feed with stage := .closing }
  | _, _ => none

/-- After a lag the loop only continues. -/
def receive (feed : ConsoleFeed) (receipt : Receipt ConsoleEvent) : ConsoleFeed :=
  { feed with stage := receipt.received.elim .listening .sending }

end ConsoleFeed

/-- What a task does to the number of subscribers. -/
def ConsoleAct.adjust (count : Nat) : ConsoleAct → Nat
  | .count => count + 1
  | .uncount => if 0 < count then count - 1 else count
  | _ => count

namespace ConsoleSockets

variable (s : ConsoleSockets) (x : ConsoleId)

def subscribe : Option ConsoleSockets :=
  if s.feeds.get x = none then
    some { s with
      channel := s.channel.subscribe x
      feeds := s.feeds.insert x { since := s.channel.sent.length } }
  else none

def recv : Option ConsoleSockets :=
  (s.feeds.get x).bind fun feed ↦
    match feed.stage with
    | .listening =>
      (s.channel.recv x).bind fun channel ↦
        (channel.receivers.get x).bind fun receiver ↦
          receiver.receipts.head?.map fun receipt ↦
            { s with channel, feeds := s.feeds.insert x (feed.receive receipt) }
    | _ => none

def task (act : ConsoleAct) : Option ConsoleSockets :=
  (s.feeds.get x).bind fun feed ↦ (feed.perform act).map fun feed ↦
    { s with
      subscriberCount := act.adjust s.subscriberCount
      feeds := s.feeds.insert x feed }

def close : Option ConsoleSockets :=
  (s.feeds.get x).bind fun feed ↦
    match feed.stage with
    | .closing =>
      some { s with
        channel := s.channel.close x
        feeds := s.feeds.insert x { feed with stage := .gone } }
    | _ => none

def step : ConsoleLabel → Option ConsoleSockets
  | .publish e => some { s with channel := (s.channel.send e).2 }
  | .subscribe x => s.subscribe x
  | .recv x => s.recv x
  | .task x act => s.task x act
  | .close x => s.close x

end ConsoleSockets

/-! ## One connection -/

namespace ConsoleFeed

/-- The greeting has not been sent yet. -/
def Starting (feed : ConsoleFeed) : Prop :=
  match feed.stage with
  | .subscribing | .greeting => True
  | _ => False

def Looping (feed : ConsoleFeed) : Prop :=
  match feed.stage with
  | .listening | .sending _ => True
  | _ => False

/-- The connection has not ended. -/
def Intact (feed : ConsoleFeed) : Prop := feed.Starting ∨ feed.Looping

/-- The connection is one of the subscribers that are counted. -/
def Counted (feed : ConsoleFeed) : Prop :=
  match feed.stage with
  | .greeting | .listening | .sending _ | .leaving => True
  | _ => False

def Open (feed : ConsoleFeed) : Prop :=
  match feed.stage with
  | .gone => False
  | _ => True

/-- The event that the loop is about to send. -/
def carried (feed : ConsoleFeed) : List ConsoleEvent :=
  match feed.stage with
  | .sending e => [e]
  | _ => []

/-- The frames are a greeting and events after it, and these with the one carried come from
`received`. -/
structure Relays (received : List ConsoleEvent) (feed : ConsoleFeed) : Prop where
  starting : feed.Starting → feed.frames = []
  looping : feed.Looping → feed.frames ≠ []
  conveys : ∃ hellos written, feed.frames = hellos ++ written.map .event ∧
    (feed.frames ≠ [] → ∃ timestamp, hellos = [.hello timestamp]) ∧
    Conveys feed.Intact received written feed.carried

variable {received : List ConsoleEvent} {feed feed' : ConsoleFeed}

theorem relays_subscribed (since : Nat) : Relays [] { since } where
  starting _ := rfl
  looping h := h.elim
  conveys := ⟨[], [], rfl, fun h ↦ absurd rfl h, .start _⟩

/-- The greeting is sent, before any event has been received. -/
theorem relays_greet {since : Nat} {frames : List ConsoleFrame} (timestamp : Int64)
    (h : Relays received { since, stage := .greeting, frames }) :
    Relays received {
      since
      stage := .listening
      frames := frames ++ [.hello timestamp] } := by
  obtain rfl : frames = [] := h.starting trivial
  obtain ⟨hellos, written, hframes, -, hconveys⟩ := h.conveys
  obtain ⟨-, hwritten⟩ := List.append_eq_nil_iff.mp hframes.symm
  obtain rfl := List.map_eq_nil_iff.mp hwritten
  exact {
    starting := fun h ↦ h.elim
    looping := fun _ ↦ List.cons_ne_nil _ _
    conveys := ⟨[.hello timestamp], [], rfl, fun _ ↦ ⟨timestamp, rfl⟩,
      hconveys.mono fun _ ↦ .inl trivial⟩ }

/-- An event is sent. -/
theorem relays_send {since : Nat} {frames : List ConsoleFrame} {e : ConsoleEvent}
    (h : Relays received { since, stage := .sending e, frames }) :
    Relays received { since, stage := .listening, frames := frames ++ [.event e] } := by
  obtain ⟨hellos, written, hframes, hhello, hconveys⟩ := h.conveys
  exact {
    starting := fun h ↦ h.elim
    looping := fun _ ↦ List.append_ne_nil_of_right_ne_nil _ (List.cons_ne_nil _ _)
    conveys := by
      refine ⟨hellos, written ++ [e], ?_, fun _ ↦ hhello (h.looping trivial), ?_⟩
      · change frames ++ _ = _
        rw [show frames = hellos ++ written.map .event from hframes, List.map_append,
          List.append_assoc]
        rfl
      · refine (hconveys.mono fun _ ↦ .inr trivial).move ?_
        exact List.append_nil _ }

/-- The connection ends, and with it what it carries. -/
theorem relays_leave {since : Nat} {stage ended : ConsoleStage} {frames : List ConsoleFrame}
    (h : Relays received { since, stage, frames })
    (hended : ¬ Intact { since, stage := ended, frames })
    (hcarried : carried { since, stage := ended, frames } = []) :
    Relays received { since, stage := ended, frames } := by
  obtain ⟨hellos, written, hframes, hhello, hconveys⟩ := h.conveys
  exact {
    starting := fun hstarting ↦ absurd (.inl hstarting) hended
    looping := fun hlooping ↦ absurd (.inr hlooping) hended
    conveys := ⟨hellos, written, hframes, hhello,
      hconveys.drop hended (hcarried ▸ List.nil_prefix)⟩ }

/-- Whatever the task of a connection does, the events stay in order. -/
theorem relays_perform {act : ConsoleAct} (h : feed.Relays received)
    (hstep : feed.perform act = some feed') : feed'.Relays received := by
  obtain ⟨since, stage, frames⟩ := feed
  have hleave : ∀ ended : ConsoleStage, ended = .leaving ∨ ended = .closing →
      Relays received { since, stage := ended, frames } := by
    rintro ended (rfl | rfl) <;> exact relays_leave h (by simp [Intact, Starting, Looping]) rfl
  cases act with
  | count =>
    cases stage with
    | subscribing =>
      cases hstep
      obtain ⟨hellos, written, hframes, hhello, hconveys⟩ := h.conveys
      exact {
        starting := fun _ ↦ h.starting trivial
        looping := fun h ↦ h.elim
        conveys := ⟨hellos, written, hframes, hhello, hconveys.mono fun _ ↦ .inl trivial⟩ }
    | _ => cases hstep
  | greet timestamp =>
    cases stage with
    | greeting =>
      cases hstep
      exact relays_greet timestamp h
    | _ => cases hstep
  | greetFails =>
    cases stage with
    | greeting =>
      cases hstep
      exact hleave _ (.inl rfl)
    | _ => cases hstep
  | send =>
    cases stage with
    | sending e =>
      cases hstep
      exact relays_send h
    | _ => cases hstep
  | sendFails =>
    cases stage with
    | sending e =>
      cases hstep
      exact hleave _ (.inl rfl)
    | _ => cases hstep
  | hangUp =>
    cases stage with
    | listening =>
      cases hstep
      exact hleave _ (.inl rfl)
    | _ => cases hstep
  | uncount =>
    cases stage with
    | leaving =>
      cases hstep
      exact hleave _ (.inr rfl)
    | _ => cases hstep

/-- A reception hands the event to the loop. -/
theorem relays_receive (h : feed.Relays received) (hstage : feed.stage = .listening)
    (receipt : Receipt ConsoleEvent) :
    (feed.receive receipt).Relays (received ++ receipt.received.toList) := by
  obtain ⟨since, stage, frames⟩ := feed
  subst hstage
  obtain ⟨hellos, written, hframes, hhello, hconveys⟩ := h.conveys
  have hgreeted : frames ≠ [] := h.looping trivial
  cases receipt with
  | event number e =>
    exact {
      starting := fun h ↦ h.elim
      looping := fun _ ↦ hgreeted
      conveys := ⟨hellos, written, hframes, hhello,
        (hconveys.enter (.inr trivial) e).mono fun _ ↦ .inr trivial⟩ }
  | lagged next behind =>
    rw [show received ++ Option.toList (Receipt.received (.lagged next behind)) = received from
      List.append_nil _]
    exact h

theorem since_perform {act : ConsoleAct} (h : feed.perform act = some feed') :
    feed'.since = feed.since := by
  unfold perform at h
  split at h <;> cases h <;> rfl

theorem frames_perform {act : ConsoleAct} (h : feed.perform act = some feed') :
    feed.frames <+: feed'.frames := by
  unfold perform at h
  split at h <;> cases h <;> simp

/-- Only counting and uncounting changes who is counted. -/
theorem counted_perform {act : ConsoleAct} (h : feed.perform act = some feed') :
    act = .count ∧ ¬ feed.Counted ∧ feed'.Counted ∨
      act = .uncount ∧ feed.Counted ∧ ¬ feed'.Counted ∨
      (∀ count, act.adjust count = count) ∧ (feed'.Counted ↔ feed.Counted) := by
  unfold perform at h
  split at h <;> cases h <;> simp_all [Counted, ConsoleAct.adjust]

theorem Counted.open (h : feed.Counted) : feed.Open := by
  unfold Counted at h
  unfold Open
  split at h <;> simp_all

theorem open_perform {act : ConsoleAct} (h : feed.perform act = some feed') :
    feed.Open ∧ feed'.Open := by
  unfold perform at h
  split at h <;> cases h <;> simp_all [Open]

end ConsoleFeed

/-! ## All connections -/

namespace ConsoleSockets

variable {s t : ConsoleSockets} {x : ConsoleId}

/-- The receiver of a connection accounts for what has been sent since it subscribed, its frames
relay what the receiver has received, and it is open until the connection is gone. -/
structure Feeds (channel : Channel ConsoleId ConsoleEvent) (x : ConsoleId) (feed : ConsoleFeed)
    (receiver : Receiver ConsoleEvent) : Prop where
  received : channel.receivers.get x = some receiver
  accounts : channel.Accounts receiver feed.since
  relays : feed.Relays receiver.events
  opened : feed.Open → x ∈ channel.opened

/-- The connections that are counted, each once. -/
structure Counts (s : ConsoleSockets) (live : List ConsoleId) : Prop where
  nodup : live.Nodup
  mem : ∀ x, x ∈ live ↔ ∃ feed, s.feeds.get x = some feed ∧ feed.Counted
  length : live.length = s.subscriberCount

structure Inv (s : ConsoleSockets) : Prop where
  fed : ∀ x feed, s.feeds.get x = some feed → ∃ receiver, Feeds s.channel x feed receiver
  counted : ∃ live, s.Counts live

theorem inv_new (capacity : Nat) : (new capacity).Inv where
  fed x feed h := by cases h
  counted :=
    ⟨[], .nil, fun x ↦ ⟨fun h ↦ absurd h List.not_mem_nil, fun ⟨_, h, _⟩ ↦ by cases h⟩, rfl⟩

/-! ### The number of subscribers -/

section Counting

variable {live : List ConsoleId} {feed feed' : ConsoleFeed}
  {channel : Channel ConsoleId ConsoleEvent}

/-- Is a connection counted after one of them has changed? -/
theorem mem_insert (h : s.Counts live) (y : ConsoleId) :
    (∃ other, (s.feeds.insert x feed').get y = some other ∧ other.Counted) ↔
      if y = x then feed'.Counted else y ∈ live := by
  rw [KeyMap.get_insert]
  split_ifs with hyx
  · simp
  · exact (h.mem y).symm

/-- A connection that stays counted, or uncounted. -/
theorem Counts.same (h : s.Counts live) (hsame : feed'.Counted ↔ x ∈ live) :
    Counts { s with channel, feeds := s.feeds.insert x feed' } live where
  nodup := h.nodup
  mem y := by
    rw [mem_insert h y]
    split_ifs with hyx
    · rw [hyx, hsame]
    · rfl
  length := h.length

theorem Counts.count (h : s.Counts live) (hnew : x ∉ live) (hcounted : feed'.Counted) :
    Counts { s with
      subscriberCount := s.subscriberCount + 1
      feeds := s.feeds.insert x feed' } (x :: live) where
  nodup := List.nodup_cons.mpr ⟨hnew, h.nodup⟩
  mem y := by
    rw [mem_insert h y, List.mem_cons]
    split_ifs with hyx
    · simp [hyx, hcounted]
    · simp [hyx]
  length := congrArg (· + 1) h.length

theorem Counts.uncount (h : s.Counts live) (hold : x ∈ live) (hcounted : ¬ feed'.Counted) :
    Counts { s with
      subscriberCount := ConsoleAct.adjust s.subscriberCount .uncount
      feeds := s.feeds.insert x feed' } (live.erase x) where
  nodup := h.nodup.erase x
  mem y := by
    rw [mem_insert h y, h.nodup.mem_erase_iff]
    split_ifs with hyx
    · simp [hyx, hcounted]
    · simp [hyx]
  length := by
    rw [List.length_erase_of_mem hold, h.length]
    change _ = if 0 < s.subscriberCount then s.subscriberCount - 1 else s.subscriberCount
    split_ifs with hpositive
    · rfl
    · omega

theorem Counts.task {act : ConsoleAct} (h : s.Counts live) (hfeed : s.feeds.get x = some feed)
    (hstep : feed.perform act = some feed') :
    ∃ live', Counts { s with
      subscriberCount := act.adjust s.subscriberCount
      feeds := s.feeds.insert x feed' } live' := by
  have hmem : x ∈ live ↔ feed.Counted := by
    rw [h.mem, hfeed]
    simp
  rcases ConsoleFeed.counted_perform hstep with ⟨rfl, hnew, hcounted⟩ | ⟨rfl, hold, hcounted⟩ |
    ⟨hadjust, hsame⟩
  · exact ⟨_, h.count (mt hmem.mp hnew) hcounted⟩
  · exact ⟨_, h.uncount (hmem.mpr hold) hcounted⟩
  · rw [hadjust]
    exact ⟨_, h.same (hsame.trans hmem.symm)⟩

end Counting

/-! ### What each connection sends -/

section Feeding

variable {channel channel' : Channel ConsoleId ConsoleEvent} {feed feed' : ConsoleFeed}
  {receiver : Receiver ConsoleEvent}

/-- What other tasks do with the channel. -/
theorem Feeds.mono (h : Feeds channel x feed receiver)
    (hreceived : channel'.receivers.get x = channel.receivers.get x)
    (hcapacity : channel'.capacity = channel.capacity) (hsent : channel.sent <+: channel'.sent)
    (hopened : x ∈ channel.opened → x ∈ channel'.opened) : Feeds channel' x feed receiver where
  received := hreceived.trans h.received
  accounts := h.accounts.of_sent hcapacity hsent
  relays := h.relays
  opened hopen := hopened (h.opened hopen)

theorem opened_send (channel : Channel ConsoleId ConsoleEvent) (e : ConsoleEvent) :
    (channel.send e).2.opened = channel.opened := by
  unfold Channel.send
  split_ifs <;> rfl

theorem inv_publish (hs : s.Inv) (e : ConsoleEvent) :
    Inv { s with channel := (s.channel.send e).2 } where
  fed y feed hfeed := by
    obtain ⟨receiver, h⟩ := hs.fed y feed hfeed
    refine ⟨receiver, h.mono ?_ (Channel.capacity_send _ _) (Channel.sent_prefix_send _ _) ?_⟩
    · rw [Channel.receivers_send]
    · rw [opened_send]
      exact fun h ↦ h
  counted := by
    obtain ⟨live, hlive⟩ := hs.counted
    exact ⟨live, hlive.nodup, hlive.mem, hlive.length⟩

theorem inv_subscribe (hs : s.Inv) (h : s.subscribe x = some t) : t.Inv := by
  obtain ⟨hfree, ht⟩ := Option.ite_none_right_eq_some.mp h
  cases ht
  exact {
    fed := by
      intro y feed hfeed
      rcases KeyMap.get_insert_eq_some.mp hfeed with ⟨rfl, rfl⟩ | ⟨hyx, hold⟩
      · exact ⟨_, {
          received := KeyMap.get_insert_self _ _ _
          accounts := Channel.accounts_opened (Nat.le_refl _)
          relays := ConsoleFeed.relays_subscribed _
          opened := fun _ ↦ List.mem_cons_self }⟩
      · obtain ⟨receiver, h⟩ := hs.fed y feed hold
        exact ⟨receiver, h.mono (KeyMap.get_insert_of_ne _ _ hyx) rfl (List.prefix_refl _)
          (List.mem_cons_of_mem _)⟩
    counted := by
      obtain ⟨live, hlive⟩ := hs.counted
      refine ⟨live, hlive.same ⟨fun h ↦ h.elim, fun hmem ↦ ?_⟩⟩
      obtain ⟨feed, hfeed, -⟩ := (hlive.mem x).mp hmem
      cases hfree.symm.trans hfeed }

theorem inv_recv (hs : s.Inv) (h : s.recv x = some t) : t.Inv := by
  obtain ⟨feed, hfeed, h⟩ := Option.bind_eq_some_iff.mp h
  split at h
  case h_2 => cases h
  next hstage =>
  obtain ⟨channel, hrecv, h⟩ := Option.bind_eq_some_iff.mp h
  obtain ⟨after, hafter, h⟩ := Option.bind_eq_some_iff.mp h
  obtain ⟨receipt, hreceipt, rfl⟩ := Option.map_eq_some_iff.mp h
  obtain ⟨receiver, hfeeds⟩ := hs.fed x feed hfeed
  obtain ⟨same, next, latest, hsame, rfl, hcase⟩ := Channel.recv_cases hrecv
  obtain rfl := Option.some.inj (hfeeds.received.symm.trans hsame)
  obtain rfl := Option.some.inj ((KeyMap.get_insert_self _ _ _).symm.trans hafter)
  obtain rfl := Option.some.inj hreceipt
  exact {
    fed := by
      intro y other hother
      rcases KeyMap.get_insert_eq_some.mp hother with ⟨rfl, rfl⟩ | ⟨hyx, hold⟩
      · refine ⟨_, {
          received := KeyMap.get_insert_self _ _ _
          accounts := (hfeeds.accounts.received hcase).of_sent rfl (List.prefix_refl _)
          relays := ?_
          opened := fun _ ↦ hfeeds.opened ?_ }⟩
        · rw [Receiver.events_cons]
          exact ConsoleFeed.relays_receive hfeeds.relays hstage latest
        · unfold ConsoleFeed.Open
          rw [hstage]
          trivial
      · obtain ⟨theirs, h⟩ := hs.fed y other hold
        exact ⟨theirs, h.mono (KeyMap.get_insert_of_ne _ _ hyx) rfl (List.prefix_refl _)
          fun h ↦ h⟩
    counted := by
      obtain ⟨live, hlive⟩ := hs.counted
      have hcounted : feed.Counted := by
        unfold ConsoleFeed.Counted
        rw [hstage]
        trivial
      refine ⟨live, hlive.same ⟨fun _ ↦ (hlive.mem x).mpr ⟨feed, hfeed, hcounted⟩, fun _ ↦ ?_⟩⟩
      cases latest <;> trivial }

theorem inv_task {act : ConsoleAct} (hs : s.Inv) (h : s.task x act = some t) : t.Inv := by
  obtain ⟨feed, hfeed, h⟩ := Option.bind_eq_some_iff.mp h
  obtain ⟨feed', hstep, rfl⟩ := Option.map_eq_some_iff.mp h
  exact {
    fed := by
      intro y other hother
      rcases KeyMap.get_insert_eq_some.mp hother with ⟨rfl, rfl⟩ | ⟨-, hold⟩
      · obtain ⟨receiver, h⟩ := hs.fed y feed hfeed
        exact ⟨receiver, {
          received := h.received
          accounts := (ConsoleFeed.since_perform hstep).symm ▸ h.accounts
          relays := ConsoleFeed.relays_perform h.relays hstep
          opened := fun _ ↦ h.opened (ConsoleFeed.open_perform hstep).1 }⟩
      · exact hs.fed y other hold
    counted := by
      obtain ⟨live, hlive⟩ := hs.counted
      exact hlive.task hfeed hstep }

theorem inv_close (hs : s.Inv) (h : s.close x = some t) : t.Inv := by
  obtain ⟨feed, hfeed, h⟩ := Option.bind_eq_some_iff.mp h
  split at h
  case h_2 => cases h
  next hstage =>
  cases h
  obtain ⟨since, stage, frames⟩ := feed
  subst hstage
  exact {
    fed := by
      intro y other hother
      rcases KeyMap.get_insert_eq_some.mp hother with ⟨rfl, rfl⟩ | ⟨hyx, hold⟩
      · obtain ⟨receiver, h⟩ := hs.fed y _ hfeed
        exact ⟨receiver, {
          received := h.received
          accounts := h.accounts.of_sent rfl (List.prefix_refl _)
          relays := ConsoleFeed.relays_leave h.relays (by
            simp [ConsoleFeed.Intact, ConsoleFeed.Starting, ConsoleFeed.Looping]) rfl
          opened := fun h ↦ h.elim }⟩
      · obtain ⟨receiver, h⟩ := hs.fed y other hold
        exact ⟨receiver, h.mono rfl rfl (List.prefix_refl _) (List.mem_erase_of_ne hyx).mpr⟩
    counted := by
      obtain ⟨live, hlive⟩ := hs.counted
      refine ⟨live, hlive.same ⟨fun h ↦ h.elim, fun hmem ↦ ?_⟩⟩
      obtain ⟨feed, hother, hcounted⟩ := (hlive.mem x).mp hmem
      obtain rfl := Option.some.inj (hfeed.symm.trans hother)
      exact hcounted }

theorem inv_step {label : ConsoleLabel} (hs : s.Inv) (h : s.step label = some t) : t.Inv := by
  cases label with
  | publish e =>
    cases h
    exact inv_publish hs e
  | subscribe x => exact inv_subscribe hs h
  | recv x => exact inv_recv hs h
  | task x act => exact inv_task hs h
  | close x => exact inv_close hs h

end Feeding

/-- What a step means for those that read the frames: a connection keeps the place at which it has
subscribed and the frames that it has sent, and a new one stands at the end of what was sent. -/
theorem feeds_step {label : ConsoleLabel} (h : s.step label = some t) :
    s.channel.sent <+: t.channel.sent ∧
      ∀ x, (∀ feed, s.feeds.get x = some feed → ∃ feed', t.feeds.get x = some feed' ∧
          feed'.since = feed.since ∧ feed.frames <+: feed'.frames) ∧
        (s.feeds.get x = none → t.feeds.get x = none ∨ label = .subscribe x ∧
          t.feeds.get x = some { since := t.channel.sent.length }) := by
  have hput : ∀ y feed feed', s.feeds.get y = some feed → feed'.since = feed.since →
      feed.frames <+: feed'.frames → ∀ x, (∀ old, s.feeds.get x = some old →
        ∃ new, (s.feeds.insert y feed').get x = some new ∧ new.since = old.since ∧
          old.frames <+: new.frames) ∧
        (s.feeds.get x = none → (s.feeds.insert y feed').get x = none) := by
    intro y feed feed' hfeed hsince hframes x
    rw [KeyMap.get_insert]
    split_ifs with hxy
    · subst hxy
      refine ⟨fun old hold ↦ ?_, fun hnone ↦ ?_⟩
      · obtain rfl := Option.some.inj (hfeed.symm.trans hold)
        exact ⟨feed', rfl, hsince, hframes⟩
      · cases hnone.symm.trans hfeed
    · exact ⟨fun old hold ↦ ⟨old, hold, rfl, List.prefix_refl _⟩, fun h ↦ h⟩
  cases label with
  | publish e =>
    cases h
    exact ⟨Channel.sent_prefix_send _ _, fun x ↦
      ⟨fun feed hfeed ↦ ⟨feed, hfeed, rfl, List.prefix_refl _⟩, .inl⟩⟩
  | subscribe y =>
    obtain ⟨hfree, ht⟩ := Option.ite_none_right_eq_some.mp h
    cases ht
    refine ⟨List.prefix_refl _, fun x ↦ ?_⟩
    by_cases hxy : x = y
    · subst hxy
      exact ⟨fun feed hfeed ↦ (by cases hfree.symm.trans hfeed),
        fun _ ↦ .inr ⟨rfl, KeyMap.get_insert_self _ _ _⟩⟩
    · refine ⟨fun feed hfeed ↦ ⟨feed, ?_, rfl, List.prefix_refl _⟩, fun hnone ↦ .inl ?_⟩
      · exact (KeyMap.get_insert_of_ne _ _ hxy).trans hfeed
      · exact (KeyMap.get_insert_of_ne _ _ hxy).trans hnone
  | recv y =>
    obtain ⟨feed, hfeed, h⟩ := Option.bind_eq_some_iff.mp h
    split at h
    case h_2 => cases h
    obtain ⟨channel, hrecv, h⟩ := Option.bind_eq_some_iff.mp h
    obtain ⟨after, -, h⟩ := Option.bind_eq_some_iff.mp h
    obtain ⟨receipt, -, rfl⟩ := Option.map_eq_some_iff.mp h
    obtain ⟨_, _, _, -, rfl, -⟩ := Channel.recv_cases hrecv
    refine ⟨List.prefix_refl _, fun x ↦ ?_⟩
    obtain ⟨hsome, hnone⟩ := hput y feed (feed.receive receipt) hfeed rfl (List.prefix_refl _) x
    exact ⟨hsome, fun h ↦ .inl (hnone h)⟩
  | task y act =>
    obtain ⟨feed, hfeed, h⟩ := Option.bind_eq_some_iff.mp h
    obtain ⟨feed', hstep, rfl⟩ := Option.map_eq_some_iff.mp h
    refine ⟨List.prefix_refl _, fun x ↦ ?_⟩
    obtain ⟨hsome, hnone⟩ := hput y feed feed' hfeed (ConsoleFeed.since_perform hstep)
      (ConsoleFeed.frames_perform hstep) x
    exact ⟨hsome, fun h ↦ .inl (hnone h)⟩
  | close y =>
    obtain ⟨feed, hfeed, h⟩ := Option.bind_eq_some_iff.mp h
    split at h
    case h_2 => cases h
    cases h
    refine ⟨List.prefix_refl _, fun x ↦ ?_⟩
    obtain ⟨hsome, hnone⟩ := hput y feed { feed with stage := .gone } hfeed rfl
      (List.prefix_refl _) x
    exact ⟨hsome, fun h ↦ .inl (hnone h)⟩

/-- In every interleaving of the publishers and the connections. -/
theorem inv_run {capacity : Nat} {labels : List ConsoleLabel}
    (hrun : Run.exec step (new capacity) labels = some t) : t.Inv :=
  Run.invariant Inv (fun _ _ _ ↦ inv_step) hrun (inv_new capacity)

end ConsoleSockets

/-- What a connection has sent, next to what the bus has sent since it subscribed. -/
structure ConsoleFeed.Serves (channel : Channel ConsoleId ConsoleEvent)
    (receiver : Receiver ConsoleEvent) (feed : ConsoleFeed) (written : List ConsoleEvent) :
    Prop where
  /-- the frames are a greeting and these events after it -/
  frames : feed.frames = [] ∧ written = [] ∨
    ∃ timestamp, feed.frames = .hello timestamp :: written.map .event
  /-- they are in the order of the bus, each once -/
  ordered : written.Sublist (channel.sent.drop feed.since)
  /-- each event since then is received, lost by a lag, or to come -/
  accounted : channel.Accounts receiver feed.since
  /-- what the receiver has received is sent on in order -/
  passed : written ++ feed.carried <+: receiver.events
  /-- nothing of it is lost while the connection lasts, whether the receiver has lagged or not -/
  intact : feed.Intact → written ++ feed.carried = receiver.events
  /-- without a lag the client is given all that the bus has sent since it subscribed -/
  complete : feed.Intact → ¬ receiver.Lagged →
    written ++ feed.carried ++ channel.sent.drop receiver.next = channel.sent.drop feed.since

theorem ConsoleFeed.Serves.events {channel : Channel ConsoleId ConsoleEvent}
    {receiver : Receiver ConsoleEvent} {feed : ConsoleFeed} {written : List ConsoleEvent}
    (h : feed.Serves channel receiver written) :
    feed.frames.filterMap ConsoleFrame.event? = written := by
  rcases h.frames with ⟨hframes, rfl⟩ | ⟨timestamp, hframes⟩
  · rw [hframes]
    rfl
  · rw [hframes, List.filterMap_cons, List.filterMap_map]
    exact List.filterMap_some

/-- What the invariant says about a connection. -/
theorem ConsoleSockets.Inv.serves {t : ConsoleSockets} (ht : t.Inv) {x : ConsoleId}
    {feed : ConsoleFeed} (hfeed : t.feeds.get x = some feed) :
    ∃ receiver written, t.channel.receivers.get x = some receiver ∧
      feed.Serves t.channel receiver written := by
  obtain ⟨receiver, hreceived, haccounts, hrelays, -⟩ := ht.fed x feed hfeed
  obtain ⟨hellos, written, hframes, hhello, hconveys⟩ := hrelays.conveys
  refine ⟨receiver, written, hreceived, {
    frames := ?_
    ordered := haccounts.left_sublist hconveys
    accounted := haccounts
    passed := hconveys.ordered
    intact := hconveys.complete
    complete := haccounts.complete hconveys }⟩
  by_cases hempty : feed.frames = []
  · rw [hempty] at hframes
    exact .inl ⟨hempty, List.map_eq_nil_iff.mp (List.append_eq_nil_iff.mp hframes.symm).2⟩
  · obtain ⟨timestamp, rfl⟩ := hhello hempty
    exact .inr ⟨timestamp, hframes⟩

/-- In every interleaving the number of subscribers is the number of connections that have been
counted and not uncounted, and while it is positive, or any receiver is open, no event that is
published is refused. -/
theorem subscriber_count_is_live (capacity : Nat) (labels : List ConsoleLabel) (t : ConsoleSockets)
    (hrun : Run.exec ConsoleSockets.step (.new capacity) labels = some t) :
    (∃ live, t.Counts live) ∧
      (0 < t.subscriberCount ∨ (∃ x feed, t.feeds.get x = some feed ∧ feed.Open) →
        ∀ e, (t.channel.send e).1.isSome = true) := by
  have ht := ConsoleSockets.inv_run hrun
  refine ⟨ht.counted, fun h e ↦ ?_⟩
  have hopen : ∃ x feed, t.feeds.get x = some feed ∧ feed.Open := by
    refine h.elim (fun hpositive ↦ ?_) fun h ↦ h
    obtain ⟨live, hlive⟩ := ht.counted
    rw [← hlive.length, List.length_pos_iff_exists_mem] at hpositive
    obtain ⟨x, hx⟩ := hpositive
    obtain ⟨feed, hfeed, hcounted⟩ := (hlive.mem x).mp hx
    exact ⟨x, feed, hfeed, hcounted.open⟩
  obtain ⟨x, feed, hfeed, hopen⟩ := hopen
  obtain ⟨receiver, hfeeds⟩ := ht.fed x feed hfeed
  rw [Channel.send, if_neg (List.ne_nil_of_mem (hfeeds.opened hopen))]
  rfl

/-- A connection has been counted, and an event is published. -/
theorem subscriber_count_is_live_sample : ∃ t,
    Run.exec ConsoleSockets.step (.new 1024) [.subscribe 0, .task 0 .count] = some t ∧
      t.subscriberCount = 1 ∧ (∃ live, t.Counts live) ∧
      ∀ e, (t.channel.send e).1.isSome = true := by
  have hrun : ∃ t, Run.exec ConsoleSockets.step (.new 1024) [.subscribe 0, .task 0 .count] =
      some t ∧ t.subscriberCount = 1 := ⟨_, rfl, rfl⟩
  obtain ⟨t, hrun, hcount⟩ := hrun
  obtain ⟨hlive, hsend⟩ := subscriber_count_is_live 1024 _ t hrun
  exact ⟨t, hrun, hcount, hlive, hsend (.inl (by rw [hcount]; exact Nat.one_pos))⟩

end PhoneBridge.MessageCenter
