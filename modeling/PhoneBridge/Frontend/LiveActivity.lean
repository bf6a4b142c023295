import PhoneBridge.MessageCenter.ConsoleFeed

/-!
# The live activity of a console page

`LiveActivity.tsx`: a page opens a socket, puts what it is given in front of its list, which it cuts
to 30 events, and opens the next socket two seconds after the last one has closed. When the page is
left it clears its timer and closes its socket, whose `onclose` is still called.
-/

namespace PhoneBridge.Frontend

open Library Conveyor MessageCenter

/-- One mounted `LiveActivity`; the events are what `setEvents` has stored, newest first. -/
structure LivePage where
  mounted : Bool := true
  /-- the socket whose `onclose` has not been called -/
  ws : Option ConsoleId
  /-- `ws.close()` has been called, so the socket gives no more messages -/
  closing : Bool := false
  /-- how many frames the socket has given -/
  taken : Nat := 0
  events : List Json := []
  reconnectTimer : Bool := false
  /-- the frames that the page has been given while it was mounted, with their sockets, oldest first;
  the page does not keep them -/
  heard : List (ConsoleId × ConsoleFrame) := []

abbrev PageId := Nat

/-- The pages with the center; each socket is opened once. -/
structure LiveConsole where
  sockets : ConsoleSockets
  requested : List ConsoleId
  pages : KeyMap PageId LivePage

def LiveConsole.new (capacity : Nat) : LiveConsole where
  sockets := .new capacity
  requested := []
  pages := .empty

/-- What happens to a page. -/
inductive PageAct
  /-- the timer calls `connect` -/
  | reconnect (x : ConsoleId)
  | onmessage
  | onclose
  | leave

inductive LiveLabel
  /-- what the tasks of the center do -/
  | center (label : ConsoleLabel)
  /-- a page is shown, and calls `connect` -/
  | mount (page : PageId) (x : ConsoleId)
  | page (page : PageId) (act : PageAct)

namespace LivePage

/-- The list shows this many events. -/
def shownEvents : Nat := 30

variable (version : String)

/-- `setEvents((prev) => [evt, ...prev].slice(0, 30))`, unless the page has been left. -/
def setEvents (page : LivePage) (evt : Json) : LivePage :=
  if page.mounted then { page with events := (evt :: page.events).take shownEvents } else page

def connect (page : LivePage) (x : ConsoleId) : LivePage :=
  { page with ws := some x, closing := false, taken := 0, reconnectTimer := false }

def hear (page : LivePage) (x : ConsoleId) (frame : ConsoleFrame) : List (ConsoleId × ConsoleFrame) :=
  if page.mounted then page.heard ++ [(x, frame)] else page.heard

/-- The next frame of the socket, in the order in which the center has sent them. -/
def onmessage (feeds : KeyMap ConsoleId ConsoleFeed) (page : LivePage) : Option LivePage :=
  if page.closing then none
  else
    page.ws.bind fun x ↦ (feeds.get x).bind fun feed ↦ (feed.frames[page.taken]?).map fun frame ↦
      { page.setEvents (frame.json version) with
        taken := page.taken + 1
        heard := page.hear x frame }

def onclose (page : LivePage) : Option LivePage :=
  page.ws.map fun _ ↦
    { page with ws := none, closing := false, reconnectTimer := true }

/-- The effect is cleaned up. -/
def leave (page : LivePage) : Option LivePage :=
  if page.mounted then
    some { page with mounted := false, reconnectTimer := false, closing := page.ws.isSome }
  else none

end LivePage

namespace LiveConsole

variable (version : String) (s : LiveConsole)

/-- A socket is opened that has not been opened before. -/
def mount (page : PageId) (x : ConsoleId) : Option LiveConsole :=
  if s.pages.get page = none ∧ x ∉ s.requested then
    some { s with
      requested := x :: s.requested
      pages := s.pages.insert page { ws := some x } }
  else none

def reconnect (id : PageId) (page : LivePage) (x : ConsoleId) : Option LiveConsole :=
  if page.reconnectTimer = true ∧ x ∉ s.requested then
    some { s with
      requested := x :: s.requested
      pages := s.pages.insert id (page.connect x) }
  else none

def perform (id : PageId) (page : LivePage) : PageAct → Option LiveConsole
  | .reconnect x => s.reconnect id page x
  | .onmessage =>
    (page.onmessage version s.sockets.feeds).map fun page ↦
      { s with pages := s.pages.insert id page }
  | .onclose => page.onclose.map fun page ↦ { s with pages := s.pages.insert id page }
  | .leave => page.leave.map fun page ↦ { s with pages := s.pages.insert id page }

/-- The center accepts a socket that a page has opened. -/
def admits : ConsoleLabel → Bool
  | .subscribe x => x ∈ s.requested
  | _ => true

def step : LiveLabel → Option LiveConsole
  | .center label =>
    if s.admits label then (s.sockets.step label).map fun sockets ↦ { s with sockets } else none
  | .mount id x => s.mount id x
  | .page id act => (s.pages.get id).bind fun page ↦ s.perform version id page act

end LiveConsole

/-! ## What a page shows -/

/-- The events of the frames that a page has been given. -/
def eventsOf (frames : List ConsoleFrame) : List ConsoleEvent := frames.filterMap ConsoleFrame.event?

theorem eventsOf_append (front back : List ConsoleFrame) :
    eventsOf (front ++ back) = eventsOf front ++ eventsOf back := List.filterMap_append

/-- The events that a page has been given, oldest first. -/
def LivePage.heardEvents (page : LivePage) : List ConsoleEvent := eventsOf (page.heard.map Prod.snd)

/-- What the connection behind a socket has sent. -/
def framesOf (sockets : ConsoleSockets) (x : ConsoleId) : List ConsoleFrame :=
  (sockets.feeds.get x).elim [] ConsoleFeed.frames

/-- What a page has heard from the socket that it has open: the first frames of the connection, after
all that it has heard from other sockets. -/
structure Listens (sockets : ConsoleSockets) (page : LivePage) (x : ConsoleId) : Prop where
  waiting : sockets.feeds.get x = none → page.taken = 0
  taking : ∀ feed, sockets.feeds.get x = some feed → page.taken ≤ feed.frames.length ∧
    ∃ past, page.heard = past ++ (feed.frames.take page.taken).map (x, ·) ∧ x ∉ past.map Prod.fst ∧
      (eventsOf (past.map Prod.snd)).Sublist (sockets.channel.sent.take feed.since)

/-- The list of a page is the newest of what it has heard, newest first, over all the sockets that it
has had. -/
structure Shows (version : String) (sockets : ConsoleSockets) (page : LivePage) : Prop where
  events : page.events =
    ((page.heard.map fun entry ↦ entry.2.json version).reverse).take LivePage.shownEvents
  /-- from each socket, open or closed, the page has heard the first of its frames -/
  lanes : ∀ x, lane page.heard x <+: framesOf sockets x
  /-- the events are ones of the bus, in its order, none twice -/
  ordered : page.heardEvents.Sublist sockets.channel.sent
  /-- the open socket has given all that the page has taken of it -/
  listens : page.mounted = true → ∀ x, page.ws = some x → Listens sockets page x

section Shows

variable {version : String} {sockets sockets' : ConsoleSockets} {page page' : LivePage}
  {x : ConsoleId} {label : ConsoleLabel}

theorem framesOf_eq {feed : ConsoleFeed} (h : sockets.feeds.get x = some feed) :
    framesOf sockets x = feed.frames := by
  simp [framesOf, h]

/-- What a connection has sent stays sent. -/
theorem framesOf_step (hstep : sockets.step label = some sockets') (x : ConsoleId) :
    framesOf sockets x <+: framesOf sockets' x := by
  cases hfeed : sockets.feeds.get x with
  | none => simp [framesOf, hfeed]
  | some feed =>
    obtain ⟨feed', hfeed', -, hframes⟩ := ((ConsoleSockets.feeds_step hstep).2 x).1 feed hfeed
    rw [framesOf_eq hfeed, framesOf_eq hfeed']
    exact hframes

/-- A page has heard nothing from a connection that is new to the center. -/
theorem Shows.not_heard (h : Shows version sockets page) (hnew : sockets.feeds.get x = none) :
    x ∉ page.heard.map Prod.fst := by
  intro hmem
  obtain ⟨⟨y, frame⟩, hentry, rfl⟩ := List.mem_map.mp hmem
  have hframes : framesOf sockets y = [] := by simp [framesOf, hnew]
  have hlane := List.prefix_nil.mp (hframes ▸ h.lanes y)
  exact List.not_mem_nil (hlane ▸ mem_lane.mpr hentry)

/-- A connection that is new to the center has nothing to give yet. -/
theorem listens_of_unknown (h : sockets.feeds.get x = none) (htaken : page.taken = 0) :
    Listens sockets page x where
  waiting _ := htaken
  taking feed hfeed := by cases h.symm.trans hfeed

/-- The center goes on. -/
theorem Listens.center (h : Listens sockets page x) (hshows : Shows version sockets page)
    (hstep : sockets.step label = some sockets') : Listens sockets' page x := by
  obtain ⟨hsent, hfeeds⟩ := ConsoleSockets.feeds_step hstep
  obtain ⟨hsome, hnone⟩ := hfeeds x
  cases hfeed : sockets.feeds.get x with
  | some feed =>
    obtain ⟨feed', hfeed', hsince, hframes⟩ := hsome feed hfeed
    obtain ⟨htaken, past, hheard, hother, hpast⟩ := h.taking feed hfeed
    exact {
      waiting := fun hunknown ↦ (by cases hunknown.symm.trans hfeed')
      taking := by
        intro feed'' hfeed''
        obtain rfl := Option.some.inj (hfeed'.symm.trans hfeed'')
        refine ⟨htaken.trans hframes.length_le, past, ?_, hother, ?_⟩
        · obtain ⟨more, hmore⟩ := hframes
          rw [hheard, ← hmore, List.take_append_of_le_length htaken]
        · rw [hsince]
          exact hpast.trans (hsent.take feed.since).sublist }
  | none =>
    rcases hnone hfeed with hunknown | ⟨-, hnew⟩
    · exact listens_of_unknown hunknown (h.waiting hfeed)
    · exact {
        waiting := fun hunknown ↦ (by cases hunknown.symm.trans hnew)
        taking := by
          intro feed hother
          obtain rfl := Option.some.inj (hnew.symm.trans hother)
          refine ⟨(h.waiting hfeed).le, page.heard, ?_, hshows.not_heard hfeed, ?_⟩
          · simp
          · rw [List.take_length]
            exact hshows.ordered.trans hsent.sublist }

theorem Shows.center (h : Shows version sockets page)
    (hstep : sockets.step label = some sockets') : Shows version sockets' page where
  events := h.events
  lanes y := (h.lanes y).trans (framesOf_step hstep y)
  ordered := h.ordered.trans (ConsoleSockets.feeds_step hstep).1.sublist
  listens hmounted x hws := (h.listens hmounted x hws).center h hstep

/-- A page that opens a socket, or loses it, keeps its list and has heard nothing new. -/
theorem Shows.of_same (h : Shows version sockets page) (hevents : page'.events = page.events)
    (hheard : page'.heard = page.heard)
    (hlistens : page'.mounted = true → ∀ x, page'.ws = some x → Listens sockets page' x) :
    Shows version sockets page' where
  events := by rw [hevents, hheard, h.events]
  lanes y := hheard ▸ h.lanes y
  ordered := by
    rw [LivePage.heardEvents, hheard]
    exact h.ordered
  listens := hlistens

theorem take_cons_take {α : Type*} (a : α) (l : List α) (n : Nat) :
    (a :: l.take n).take n = (a :: l).take n := by
  cases n with
  | zero => rfl
  | succ n =>
    rw [List.take_succ_cons, List.take_succ_cons, List.take_take, Nat.min_eq_left n.le_succ]

/-- The events of the first frames of a connection, after events that the bus had sent before it, are
in the order of the bus. -/
theorem sublist_of_listens (hsockets : sockets.Inv) {feed : ConsoleFeed}
    (hfeed : sockets.feeds.get x = some feed) {past : List (ConsoleId × ConsoleFrame)}
    (hpast : (eventsOf (past.map Prod.snd)).Sublist (sockets.channel.sent.take feed.since))
    (taken : Nat) :
    (eventsOf ((past ++ (feed.frames.take taken).map (x, ·)).map Prod.snd)).Sublist
      sockets.channel.sent := by
  obtain ⟨receiver, written, -, hserves⟩ := hsockets.serves hfeed
  have hevents : (eventsOf feed.frames).Sublist (sockets.channel.sent.drop feed.since) := by
    rw [eventsOf, hserves.events]
    exact hserves.ordered
  have hframes : ((feed.frames.take taken).map (x, ·)).map Prod.snd = feed.frames.take taken := by
    rw [List.map_map]
    exact List.map_id _
  rw [List.map_append, hframes, eventsOf_append,
    ← List.take_append_drop feed.since sockets.channel.sent]
  exact hpast.append (((List.take_sublist taken feed.frames).filterMap _).trans hevents)

/-- The page hears one more frame. -/
theorem Shows.onmessage (h : Shows version sockets page) (hsockets : sockets.Inv)
    (hstep : page.onmessage version sockets.feeds = some page') : Shows version sockets page' := by
  obtain ⟨-, hstep⟩ := Option.ite_none_left_eq_some.mp hstep
  obtain ⟨x, hws, hstep⟩ := Option.bind_eq_some_iff.mp hstep
  obtain ⟨feed, hfeed, hstep⟩ := Option.bind_eq_some_iff.mp hstep
  obtain ⟨frame, hframe, rfl⟩ := Option.map_eq_some_iff.mp hstep
  obtain ⟨hlt, -⟩ := List.getElem?_eq_some_iff.mp hframe
  rw [LivePage.setEvents, LivePage.hear]
  split_ifs with hmounted
  · obtain ⟨-, past, hheard, hother, hpast⟩ := (h.listens hmounted x hws).taking feed hfeed
    have hnext : page.heard ++ [(x, frame)] =
        past ++ (feed.frames.take (page.taken + 1)).map (x, ·) := by
      rw [List.take_add_one, hframe, hheard, List.map_append, List.append_assoc]
      rfl
    exact {
      events := by
        change (frame.json version :: page.events).take LivePage.shownEvents = _
        rw [List.map_append, List.reverse_append, h.events, take_cons_take]
        rfl
      lanes := by
        intro y
        change lane (page.heard ++ [(x, frame)]) y <+: _
        by_cases hyx : y = x
        · subst hyx
          rw [hnext, lane_append_self, lane_eq_nil hother, List.nil_append, framesOf_eq hfeed]
          exact List.take_prefix _ _
        · rw [lane_snoc_of_ne hyx]
          exact h.lanes y
      ordered := by
        change (eventsOf ((page.heard ++ [(x, frame)]).map Prod.snd)).Sublist _
        rw [hnext]
        exact sublist_of_listens hsockets hfeed hpast _
      listens := by
        intro _ y hy
        obtain rfl : x = y := Option.some.inj (hws.symm.trans hy)
        exact {
          waiting := fun hunknown ↦ (by cases hunknown.symm.trans hfeed)
          taking := by
            intro same hsame
            obtain rfl := Option.some.inj (hfeed.symm.trans hsame)
            exact ⟨hlt, past, hnext, hother, hpast⟩ } }
  · exact h.of_same rfl rfl fun h ↦ absurd h hmounted

end Shows

/-! ## All pages -/

namespace LiveConsole

variable {version : String} {s t : LiveConsole} {label : LiveLabel} {id : PageId} {x : ConsoleId}

structure Inv (version : String) (s : LiveConsole) : Prop where
  sockets : s.sockets.Inv
  fresh : ∀ x, x ∉ s.requested → s.sockets.feeds.get x = none
  pages : ∀ id page, s.pages.get id = some page → Shows version s.sockets page

theorem inv_new (capacity : Nat) : Inv version (new capacity) where
  sockets := ConsoleSockets.inv_new capacity
  fresh _ _ := rfl
  pages id page h := by cases h

theorem inv_center {label : ConsoleLabel} {sockets : ConsoleSockets} (hs : s.Inv version)
    (hadmits : s.admits label = true) (h : s.sockets.step label = some sockets) :
    Inv version { s with sockets } where
  sockets := ConsoleSockets.inv_step hs.sockets h
  fresh y hy := by
    rcases ((ConsoleSockets.feeds_step h).2 y).2 (hs.fresh y hy) with hnone | ⟨rfl, -⟩
    · exact hnone
    · exact absurd (of_decide_eq_true hadmits) hy
  pages id page hpage := (hs.pages id page hpage).center h

/-- A page changes. -/
theorem inv_page {page' : LivePage} (hs : s.Inv version) (h : Shows version s.sockets page') :
    Inv version { s with pages := s.pages.insert id page' } where
  sockets := hs.sockets
  fresh := hs.fresh
  pages other page hpage := by
    rcases KeyMap.get_insert_eq_some.mp hpage with ⟨rfl, rfl⟩ | ⟨-, hold⟩
    · exact h
    · exact hs.pages other page hold

/-- A page opens a socket. -/
theorem inv_request {page' : LivePage} (hs : s.Inv version)
    (h : Shows version s.sockets page') : Inv version { s with
      requested := x :: s.requested
      pages := s.pages.insert id page' } where
  sockets := hs.sockets
  fresh y hy := hs.fresh y fun hmem ↦ hy (List.mem_cons_of_mem _ hmem)
  pages := (inv_page hs h).pages

theorem inv_mount (hs : s.Inv version) (h : s.mount id x = some t) : t.Inv version := by
  obtain ⟨⟨-, hfresh⟩, ht⟩ := Option.ite_none_right_eq_some.mp h
  cases ht
  refine inv_request hs {
    events := rfl
    lanes := fun _ ↦ List.nil_prefix
    ordered := List.nil_sublist _
    listens := fun _ y hy ↦ ?_ }
  obtain rfl : x = y := Option.some.inj hy
  exact listens_of_unknown (hs.fresh x hfresh) rfl

theorem inv_perform {page : LivePage} {act : PageAct} (hs : s.Inv version)
    (hpage : s.pages.get id = some page) (h : s.perform version id page act = some t) :
    t.Inv version := by
  have hshows := hs.pages id page hpage
  cases act with
  | reconnect x =>
    obtain ⟨⟨-, hfresh⟩, ht⟩ := Option.ite_none_right_eq_some.mp h
    cases ht
    refine inv_request hs (hshows.of_same rfl rfl fun _ y hy ↦ ?_)
    obtain rfl : x = y := Option.some.inj hy
    exact listens_of_unknown (hs.fresh x hfresh) rfl
  | onmessage =>
    obtain ⟨page', hpage', rfl⟩ := Option.map_eq_some_iff.mp h
    exact inv_page hs (hshows.onmessage hs.sockets hpage')
  | onclose =>
    obtain ⟨page', hpage', rfl⟩ := Option.map_eq_some_iff.mp h
    obtain ⟨x, -, rfl⟩ := Option.map_eq_some_iff.mp hpage'
    exact inv_page hs (hshows.of_same rfl rfl fun _ y hy ↦ (by cases hy))
  | leave =>
    obtain ⟨page', hpage', rfl⟩ := Option.map_eq_some_iff.mp h
    obtain ⟨-, ht⟩ := Option.ite_none_right_eq_some.mp hpage'
    cases ht
    exact inv_page hs (hshows.of_same rfl rfl fun h ↦ (by cases h))

theorem inv_step (hs : s.Inv version) (h : s.step version label = some t) : t.Inv version := by
  cases label with
  | center label =>
    obtain ⟨hadmits, h⟩ := Option.ite_none_right_eq_some.mp h
    obtain ⟨sockets, hsockets, rfl⟩ := Option.map_eq_some_iff.mp h
    exact inv_center hs hadmits hsockets
  | mount id x => exact inv_mount hs h
  | page id act =>
    obtain ⟨page, hpage, h⟩ := Option.bind_eq_some_iff.mp h
    exact inv_perform hs hpage h

/-- What the pages of an earlier state have heard is still there. -/
def Remembers (earlier s : LiveConsole) : Prop :=
  ∀ id page, earlier.pages.get id = some page →
    ∃ page', s.pages.get id = some page' ∧ page.heard <+: page'.heard

/-- What a page does, it forgets nothing that it has heard. -/
theorem heard_perform {page : LivePage} {act : PageAct}
    (h : s.perform version id page act = some t) :
    ∃ page', t.pages = s.pages.insert id page' ∧ page.heard <+: page'.heard := by
  cases act with
  | reconnect x =>
    obtain ⟨-, ht⟩ := Option.ite_none_right_eq_some.mp h
    cases ht
    exact ⟨page.connect x, rfl, List.prefix_refl _⟩
  | onmessage =>
    obtain ⟨page', hpage', rfl⟩ := Option.map_eq_some_iff.mp h
    obtain ⟨-, hpage'⟩ := Option.ite_none_left_eq_some.mp hpage'
    obtain ⟨x, -, hpage'⟩ := Option.bind_eq_some_iff.mp hpage'
    obtain ⟨feed, -, hpage'⟩ := Option.bind_eq_some_iff.mp hpage'
    obtain ⟨frame, -, rfl⟩ := Option.map_eq_some_iff.mp hpage'
    refine ⟨_, rfl, ?_⟩
    change page.heard <+: page.hear x frame
    unfold LivePage.hear
    split_ifs
    · exact List.prefix_append _ _
    · exact List.prefix_refl _
  | onclose =>
    obtain ⟨page', hpage', rfl⟩ := Option.map_eq_some_iff.mp h
    obtain ⟨x, -, rfl⟩ := Option.map_eq_some_iff.mp hpage'
    exact ⟨_, rfl, List.prefix_refl _⟩
  | leave =>
    obtain ⟨page', hpage', rfl⟩ := Option.map_eq_some_iff.mp h
    obtain ⟨-, ht⟩ := Option.ite_none_right_eq_some.mp hpage'
    cases ht
    exact ⟨_, rfl, List.prefix_refl _⟩

theorem Remembers.step {earlier : LiveConsole} (hs : earlier.Remembers s)
    (h : s.step version label = some t) : earlier.Remembers t := by
  intro id page hpage
  obtain ⟨page', hpage', hheard⟩ := hs id page hpage
  cases label with
  | center label =>
    obtain ⟨-, h⟩ := Option.ite_none_right_eq_some.mp h
    obtain ⟨sockets, -, rfl⟩ := Option.map_eq_some_iff.mp h
    exact ⟨page', hpage', hheard⟩
  | mount other x =>
    obtain ⟨⟨hnew, -⟩, ht⟩ := Option.ite_none_right_eq_some.mp h
    cases ht
    refine ⟨page', (KeyMap.get_insert_of_ne _ _ ?_).trans hpage', hheard⟩
    rintro rfl
    cases hnew.symm.trans hpage'
  | page other act =>
    obtain ⟨theirs, htheirs, h⟩ := Option.bind_eq_some_iff.mp h
    obtain ⟨after, ht, hgrows⟩ := heard_perform h
    rw [ht]
    by_cases hother : id = other
    · subst hother
      obtain rfl := Option.some.inj (hpage'.symm.trans htheirs)
      exact ⟨after, KeyMap.get_insert_self _ _ _, hheard.trans hgrows⟩
    · exact ⟨page', (KeyMap.get_insert_of_ne _ _ hother).trans hpage', hheard⟩

end LiveConsole

/-- In every run of the center and its pages, the list of a page is the newest 30 of the frames that
it has heard, newest first. From each socket that it has had it has heard the first frames of the
connection, and the events among them are ones that the bus has sent, in the order of the bus and none
twice, over all its sockets. What was heard in an earlier state is among it. Each connection serves
the bus. -/
theorem pages_show_newest (version : String) (capacity : Nat) (front back : List LiveLabel)
    (earlier t : LiveConsole)
    (hfront : Run.exec (LiveConsole.step version) (.new capacity) front = some earlier)
    (hback : Run.exec (LiveConsole.step version) earlier back = some t) :
    (∀ id page, t.pages.get id = some page → Shows version t.sockets page) ∧
      earlier.Remembers t ∧
      ∀ x feed, t.sockets.feeds.get x = some feed → ∃ receiver written,
        t.sockets.channel.receivers.get x = some receiver ∧
          feed.Serves t.sockets.channel receiver written := by
  have hearlier : earlier.Inv version := Run.invariant (LiveConsole.Inv version)
    (fun _ _ _ ↦ LiveConsole.inv_step) hfront (LiveConsole.inv_new capacity)
  have ht : t.Inv version := Run.invariant (LiveConsole.Inv version)
    (fun _ _ _ ↦ LiveConsole.inv_step) hback hearlier
  have hremembers : earlier.Remembers t := Run.invariant earlier.Remembers
    (fun _ _ _ ↦ LiveConsole.Remembers.step) hback
    fun id page hpage ↦ ⟨page, hpage, List.prefix_refl _⟩
  exact ⟨ht.pages, hremembers, fun x feed hfeed ↦ ht.sockets.serves hfeed⟩

def sampleConsoleEvent : ConsoleEvent where
  kind := "device.unpair"
  deviceId := .nil
  envelopeId := .nil
  timestamp := 0
  summary := .obj []

/-- A page is shown, and is given the greeting and one event. -/
def oneEventShown : List LiveLabel :=
  [.mount 0 0, .center (.subscribe 0), .center (.task 0 .count), .center (.task 0 (.greet 0)),
    .page 0 .onmessage, .center (.publish sampleConsoleEvent), .center (.recv 0),
    .center (.task 0 .send), .page 0 .onmessage]

/-- Its socket closes, and the next one gives a greeting. -/
def reconnected : List LiveLabel :=
  [.page 0 .onclose, .page 0 (.reconnect 1), .center (.subscribe 1), .center (.task 1 .count),
    .center (.task 1 (.greet 5)), .page 0 .onmessage]

theorem pages_show_newest_sample : ∃ earlier t page,
    Run.exec (LiveConsole.step "0.1.0") (.new 1024) oneEventShown = some earlier ∧
      Run.exec (LiveConsole.step "0.1.0") earlier reconnected = some t ∧
      t.pages.get 0 = some page ∧ page.heard.map Prod.fst = [0, 0, 1] ∧ page.events.length = 3 ∧
      Shows "0.1.0" t.sockets page ∧ earlier.Remembers t := by
  have hshown : ∃ earlier,
      Run.exec (LiveConsole.step "0.1.0") (.new 1024) oneEventShown = some earlier ∧
      ∃ t, Run.exec (LiveConsole.step "0.1.0") earlier reconnected = some t ∧
      ∃ page, t.pages.get 0 = some page ∧ page.heard.map Prod.fst = [0, 0, 1] ∧
        page.events.length = 3 :=
    ⟨_, rfl, _, rfl, _, rfl, rfl, rfl⟩
  obtain ⟨earlier, hfront, t, hback, page, hpage, hheard, hlength⟩ := hshown
  obtain ⟨hpages, hremembers, -⟩ :=
    pages_show_newest "0.1.0" 1024 oneEventShown reconnected earlier t hfront hback
  exact ⟨earlier, t, page, hfront, hback, hpage, hheard, hlength, hpages 0 page hpage, hremembers⟩

/-! ## A page that has been left -/

/-- The page has a socket, or will open one. -/
def LivePage.Connecting (page : LivePage) : Prop :=
  page.ws.isSome = true ∨ page.reconnectTimer = true

/-- The page has been left, and is or is not connecting. -/
def Left (id : PageId) (connecting : Prop) (s : LiveConsole) : Prop :=
  ∃ page, s.pages.get id = some page ∧ page.mounted = false ∧ (page.Connecting ↔ connecting)

namespace LiveConsole

variable {version : String} {s t : LiveConsole} {label : LiveLabel} {id : PageId}
  {connecting : Prop}

/-- Nothing that happens to a page that has been left changes whether it is connecting. -/
theorem pages_perform {page : LivePage} {act : PageAct}
    (h : s.perform version id page act = some t) :
    ∃ page', t.pages = s.pages.insert id page' ∧ (page.mounted = false →
      page'.mounted = false ∧ (page'.Connecting ↔ page.Connecting)) := by
  cases act with
  | reconnect x =>
    obtain ⟨⟨htimer, -⟩, ht⟩ := Option.ite_none_right_eq_some.mp h
    cases ht
    exact ⟨page.connect x, rfl, fun hmounted ↦
      ⟨hmounted, iff_of_true (.inl rfl) (.inr htimer)⟩⟩
  | onmessage =>
    obtain ⟨page', hpage', rfl⟩ := Option.map_eq_some_iff.mp h
    obtain ⟨-, hpage'⟩ := Option.ite_none_left_eq_some.mp hpage'
    obtain ⟨x, hws, hpage'⟩ := Option.bind_eq_some_iff.mp hpage'
    obtain ⟨feed, -, hpage'⟩ := Option.bind_eq_some_iff.mp hpage'
    obtain ⟨frame, -, rfl⟩ := Option.map_eq_some_iff.mp hpage'
    refine ⟨_, rfl, fun hmounted ↦ ?_⟩
    simp [LivePage.setEvents, hmounted, LivePage.Connecting]
  | onclose =>
    obtain ⟨page', hpage', rfl⟩ := Option.map_eq_some_iff.mp h
    obtain ⟨x, hws, rfl⟩ := Option.map_eq_some_iff.mp hpage'
    exact ⟨_, rfl, fun hmounted ↦
      ⟨hmounted, iff_of_true (.inr rfl) (.inl (Option.isSome_of_eq_some hws))⟩⟩
  | leave =>
    obtain ⟨page', hpage', rfl⟩ := Option.map_eq_some_iff.mp h
    obtain ⟨hstill, -⟩ := Option.ite_none_right_eq_some.mp hpage'
    exact ⟨page', rfl, fun hmounted ↦ (by cases hmounted.symm.trans hstill)⟩

theorem left_step (hs : Left id connecting s) (h : s.step version label = some t) :
    Left id connecting t := by
  obtain ⟨page, hpage, hmounted, hconnecting⟩ := hs
  cases label with
  | center label =>
    obtain ⟨-, h⟩ := Option.ite_none_right_eq_some.mp h
    obtain ⟨sockets, -, rfl⟩ := Option.map_eq_some_iff.mp h
    exact ⟨page, hpage, hmounted, hconnecting⟩
  | mount other x =>
    obtain ⟨⟨hnew, -⟩, ht⟩ := Option.ite_none_right_eq_some.mp h
    cases ht
    refine ⟨page, ?_, hmounted, hconnecting⟩
    refine (KeyMap.get_insert_of_ne _ _ ?_).trans hpage
    rintro rfl
    cases hnew.symm.trans hpage
  | page other act =>
    obtain ⟨theirs, htheirs, h⟩ := Option.bind_eq_some_iff.mp h
    obtain ⟨page', ht, hleft⟩ := pages_perform h
    rw [Left, ht]
    by_cases hother : id = other
    · subst hother
      obtain rfl := Option.some.inj (hpage.symm.trans htheirs)
      obtain ⟨hmounted', hsame⟩ := hleft hmounted
      exact ⟨page', KeyMap.get_insert_self _ _ _, hmounted', hsame.trans hconnecting⟩
    · exact ⟨page, (KeyMap.get_insert_of_ne _ _ hother).trans hpage, hmounted, hconnecting⟩

end LiveConsole

/-- A page that is left while it has a socket opens sockets for ever: in every later state it has
one or its timer is set. A page that is left between two sockets never opens another one. -/
theorem left_page_connects_iff (version : String) (s left t : LiveConsole) (id : PageId)
    (page : LivePage) (hpage : s.pages.get id = some page)
    (hleave : s.step version (.page id .leave) = some left) (rest : List LiveLabel)
    (hrest : Run.exec (LiveConsole.step version) left rest = some t) :
    ∃ after, t.pages.get id = some after ∧ (after.Connecting ↔ page.ws.isSome = true) := by
  have hleft : Left id (page.ws.isSome = true) left := by
    obtain ⟨same, hsame, hperform⟩ := Option.bind_eq_some_iff.mp hleave
    obtain rfl := Option.some.inj (hpage.symm.trans hsame)
    obtain ⟨page', hpage', rfl⟩ := Option.map_eq_some_iff.mp hperform
    obtain ⟨-, ht⟩ := Option.ite_none_right_eq_some.mp hpage'
    cases ht
    exact ⟨_, KeyMap.get_insert_self _ _ _, rfl, or_iff_left (by simp)⟩
  obtain ⟨after, hafter, -, hconnecting⟩ :=
    Run.invariant (Left id (page.ws.isSome = true)) (fun _ _ _ ↦ LiveConsole.left_step) hrest hleft
  exact ⟨after, hafter, hconnecting⟩

/-- A page is left, its socket closes, and its timer opens the next one. -/
theorem left_page_connects_iff_sample : ∃ s left t page after,
    Run.exec (LiveConsole.step "0.1.0") (.new 1024) [.mount 0 0] = some s ∧
      s.pages.get 0 = some page ∧ page.ws.isSome = true ∧
      s.step "0.1.0" (.page 0 .leave) = some left ∧
      Run.exec (LiveConsole.step "0.1.0") left [.page 0 .onclose, .page 0 (.reconnect 1)] =
        some t ∧
      t.pages.get 0 = some after ∧ (after.Connecting ↔ page.ws.isSome = true) := by
  have hleft : ∃ s, Run.exec (LiveConsole.step "0.1.0") (.new 1024) [.mount 0 0] = some s ∧
      ∃ page, s.pages.get 0 = some page ∧ page.ws.isSome = true ∧
      ∃ left, s.step "0.1.0" (.page 0 .leave) = some left ∧
      ∃ t, Run.exec (LiveConsole.step "0.1.0") left [.page 0 .onclose, .page 0 (.reconnect 1)] =
        some t :=
    ⟨_, rfl, _, rfl, rfl, _, rfl, _, rfl⟩
  obtain ⟨s, hs, page, hpage, hws, left, hleave, t, hrest⟩ := hleft
  obtain ⟨after, hafter, hconnecting⟩ :=
    left_page_connects_iff "0.1.0" s left t 0 page hpage hleave _ hrest
  exact ⟨s, left, t, page, after, hs, hpage, hws, hleave, hrest, hafter, hconnecting⟩

end PhoneBridge.Frontend
