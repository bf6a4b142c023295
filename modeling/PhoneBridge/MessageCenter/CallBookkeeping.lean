import PhoneBridge.Library.Select
import PhoneBridge.MessageCenter.DeviceIsolation
import PhoneBridge.MessageCenter.Redelivery

/-!
# Calls and their rows

Every `call.state` and every `call.incoming` of a known phone appends a row of its own, and nothing
updates it later. So the rows of a phone are its events, a row that rings keeps ringing, and no row
of a live call ends.
-/

namespace PhoneBridge.MessageCenter

open Library Select Proto Net Storage

/-! ## The dashboard -/

/-- The call counts of the dashboard. -/
structure CallCounts where
  total : Nat
  missed : Nat
  ringing : Nat
  deriving DecidableEq, Repr

/-- What `dashboard` counts among the calls. -/
def dashboardCalls (db : Db) (deviceId : Option Uuid) : CallCounts :=
  let calls := db.listCalls deviceId 100000
  { total := calls.length
    missed := calls.countP (·.direction = "missed")
    ringing := calls.countP (·.state = "ringing") }

/-- What a row says about a live call. -/
structure CallEntry where
  deviceId : Uuid
  state : String
  startedAt : Int64
  endedAt : Option Int64
  deriving DecidableEq, Repr

def callEntry (row : CallRow) : CallEntry where
  deviceId := row.deviceId
  state := row.state
  startedAt := row.startedAt
  endedAt := row.endedAt

/-- The calls that the database has stored. -/
def callEntries (db : Db) : List CallEntry := db.calls.rows.map callEntry

theorem dashboardCalls_ringing (db : Db) : (dashboardCalls db none).ringing =
    (((callEntries db).mergeSort (newestFirst (·.startedAt))).take 100000).countP
      (·.state = "ringing") := by
  have hsorted : (db.calls.rows.mergeSort fun a b ↦ b.startedAt ≤ a.startedAt).map callEntry =
      (callEntries db).mergeSort (newestFirst (·.startedAt)) :=
    List.map_mergeSort fun _ _ _ _ ↦ rfl
  rw [← hsorted, ← List.map_take, List.countP_map]
  simp only [dashboardCalls, Db.listCalls, Option.all_none, List.filter_true]
  rfl

/-! ## The events of a phone -/

/-- What a call event says about a phone. -/
structure CallEvent where
  deviceId : Uuid
  state : CallStateKind
  now : Int64
  deriving DecidableEq, Repr

/-- The call event that a frame brings; a `call.incoming` says that the phone rings. -/
def callEvent (input : Input) : Option CallEvent :=
  match input.frame.envelope.bind sinkCall with
  | some (.onCallState _ deviceId env) =>
    some { deviceId, state := env.state, now := input.arrival.sink.now }
  | some (.onCallIncoming _ deviceId _) =>
    some { deviceId, state := .ringing, now := input.arrival.sink.now }
  | _ => none

def callEvents (inputs : List Input) : List CallEvent := inputs.filterMap callEvent

/-- The frame carries a `call.state` or a `call.incoming`. -/
def CarriesCall (input : Input) : Prop :=
  ∃ env, input.frame.envelope = some env ∧
    (env.messageType = .callState ∨ env.messageType = .callIncoming)

/-- What is stored of an event. -/
def CallEvent.entry (event : CallEvent) : CallEntry where
  deviceId := event.deviceId
  state := CenterSink.callStateText event.state
  startedAt := event.now
  endedAt := none

/-- The states that a device reports. -/
def statesOf (events : List CallEvent) (deviceId : Uuid) : List CallStateKind :=
  (events.filter (·.deviceId = deviceId)).map (·.state)

theorem mem_statesOf {events : List CallEvent} {deviceId : Uuid} {state : CallStateKind} :
    state ∈ statesOf events deviceId ↔
      ∃ event ∈ events, event.deviceId = deviceId ∧ event.state = state := by
  simp [statesOf, and_assoc]

/-- How often the state of a phone changes in some way, the phone being idle at first. -/
def changes (change : CallStateKind → CallStateKind → Bool) (states : List CallStateKind) : Nat :=
  ((.idle :: states).zip states).countP fun pair ↦ change pair.1 pair.2

/-- The number of calls that a phone goes through: it stops being idle. -/
def callsOf : List CallStateKind → Nat :=
  changes fun before after ↦ before = .idle ∧ after ≠ .idle

/-- The number of calls that end: the phone is idle again. -/
def endedOf : List CallStateKind → Nat :=
  changes fun before after ↦ before ≠ .idle ∧ after = .idle

/-- The rows follow the phones: the dashboard counts the phones whose latest event says that they
ring, and the new rows of a device are the calls that it went through, the ended ones with their
end. -/
structure FollowsPhones (before : Db) (events : List CallEvent) (after : Db) : Prop where
  ringing : (dashboardCalls after none).ringing = (events.map (·.deviceId)).dedup.countP
    fun deviceId ↦ (statesOf events deviceId).getLast? = some .ringing
  calls : ∀ deviceId, (callEntries after).countP (·.deviceId = deviceId) =
    (callEntries before).countP (·.deviceId = deviceId) + callsOf (statesOf events deviceId)
  ended : ∀ deviceId,
    (callEntries after).countP (fun entry ↦ entry.deviceId = deviceId ∧ entry.endedAt.isSome) =
      (callEntries before).countP (fun entry ↦ entry.deviceId = deviceId ∧ entry.endedAt.isSome) +
        endedOf (statesOf events deviceId)

/-- The events of the known devices, in the order of their arrival. -/
def storedEvents (db : Db) (events : List CallEvent) : List CallEvent :=
  events.filter (·.deviceId ∈ db.deviceIds)

/-- A known device sends at most one event, which begins a call; an unknown device is idle. -/
def DeviceAtMostOne (db : Db) (events : List CallEvent) (deviceId : Uuid) : Prop :=
  (deviceId ∈ db.deviceIds → statesOf events deviceId = [] ∨
    ∃ state, state ≠ .idle ∧ statesOf events deviceId = [state]) ∧
  (deviceId ∉ db.deviceIds → ∀ state ∈ statesOf events deviceId, state = .idle)

/-- No phone sends a second event, and none that rings is older than the calls that the dashboard
looks at. -/
structure AtMostOneEvent (db : Db) (events : List CallEvent) : Prop where
  devices : ∀ deviceId, DeviceAtMostOne db events deviceId
  counted : ∀ entry ∈ ((callEntries db ++ (storedEvents db events).map CallEvent.entry).mergeSort
    (newestFirst (·.startedAt))).drop 100000, entry.state ≠ "ringing"

/-! ## What is stored -/

section Storing

/-- The row of an event is appended if the device is known. -/
theorem callEntries_insertCall (db : Db) {row : CallRow} {event : CallEvent}
    (hrow : callEntry row = event.entry) :
    (CenterSink.insertCall row db).deviceIds = db.deviceIds ∧
      callEntries (CenterSink.insertCall row db) =
        callEntries db ++ (storedEvents db [event]).map CallEvent.entry := by
  have htables := toTables_insertCall db row
  have hdevice : row.deviceId = event.deviceId := congrArg CallEntry.deviceId hrow
  by_cases hknown : row.deviceId ∈ db.deviceIds
  · rw [if_pos hknown] at htables
    rw [hdevice] at hknown
    have hstored : storedEvents db [event] = [event] := by simp [storedEvents, hknown]
    have hinserted : ∀ id, callEntry { row with id } = event.entry := fun _ ↦ hrow
    simp [callEntries, htables, Tables.deviceIds, hstored, hinserted]
  · rw [if_neg hknown] at htables
    rw [hdevice] at hknown
    simp [callEntries, htables, storedEvents, hknown]

variable (ctx : WsContext)

/-- A call event of a known device is appended to what is stored. -/
theorem receive_call (center : Center Db) {input : Input} (hcall : CarriesCall input) :
    (receive ctx center input).store.deviceIds = center.store.deviceIds ∧
      callEntries (receive ctx center input).store = callEntries center.store ++
        (storedEvents center.store (callEvent input).toList).map CallEvent.entry := by
  obtain ⟨env, henv, htype⟩ := hcall
  have hstore : (receive ctx center input).store =
      storeAfter input.arrival.sink env center.store := by
    rw [receive, henv]
    exact store_handled ..
  rw [hstore, storeAfter, callEvent, henv, Option.bind_some]
  rcases htype with htype | htype
  · rw [show sinkCall env = (env.parsePayload CallState.parse).toOption.map
      (.onCallState env.id env.deviceId) by simp [sinkCall, htype]]
    cases (env.parsePayload CallState.parse).toOption with
    | none => simp [storedEvents]
    | some payload => exact callEntries_insertCall center.store rfl
  · rw [show sinkCall env = (env.parsePayload CallIncoming.parse).toOption.map
      (.onCallIncoming env.id env.deviceId) by simp [sinkCall, htype]]
    cases (env.parsePayload CallIncoming.parse).toOption with
    | none => simp [storedEvents]
    | some payload => exact callEntries_insertCall center.store rfl

/-- All the call events of known devices are stored, each in a row of its own. -/
theorem callEntries_receiveAll (center : Center Db) {inputs : List Input}
    (hcalls : ∀ input ∈ inputs, CarriesCall input) :
    callEntries (inputs.foldl (receive ctx) center).store = callEntries center.store ++
      (storedEvents center.store (callEvents inputs)).map CallEvent.entry := by
  induction inputs generalizing center with
  | nil => simp [callEvents, storedEvents]
  | cons input inputs ih =>
    have hfirst := receive_call ctx center (hcalls input List.mem_cons_self)
    have hrest := ih (receive ctx center input) fun other hother ↦
      hcalls other (List.mem_cons_of_mem input hother)
    have hevents : callEvents (input :: inputs) =
        (callEvent input).toList ++ callEvents inputs := by
      cases hevent : callEvent input <;> simp [callEvents, hevent]
    rw [List.foldl_cons, hrest, hfirst.2, hevents, List.append_assoc]
    simp only [storedEvents, hfirst.1, List.filter_append, List.map_append]

end Storing

/-! ## Calls and events -/

/-- Every event is a call of its own only for a phone that leaves the idle state once. -/
theorem callsOf_eq_length_iff (states : List CallStateKind) :
    callsOf states = states.length ↔ states = [] ∨ ∃ state, state ≠ .idle ∧ states = [state] := by
  have hlength : states.length = ((CallStateKind.idle :: states).zip states).length := by simp
  rw [callsOf, changes, hlength, List.countP_eq_length]
  match states with
  | [] => simp
  | [state] => simp
  | first :: second :: rest =>
    apply iff_of_false
    · intro h
      have hfirst := h (.idle, first) (by simp)
      have hsecond := h (first, second) (by simp)
      simp only [decide_eq_true_eq] at hfirst hsecond
      exact hfirst.2 hsecond.1
    · simp

/-- A phone without calls is idle throughout. -/
theorem callsOf_eq_zero_iff (states : List CallStateKind) :
    callsOf states = 0 ↔ ∀ state ∈ states, state = .idle := by
  rw [callsOf, changes, List.countP_eq_zero]
  induction states with
  | nil => simp
  | cons state states ih =>
    by_cases hidle : state = .idle
    · subst hidle
      simpa using ih
    · apply iff_of_false
      · intro h
        exact h (.idle, state) (by simp) (by simpa using hidle)
      · simp [hidle]

theorem endedOf_singleton (state : CallStateKind) : endedOf [state] = 0 := by
  simp [endedOf, changes]

/-- A phone that is idle throughout ends no call. -/
theorem endedOf_eq_zero {states : List CallStateKind} (h : ∀ state ∈ states, state = .idle) :
    endedOf states = 0 := by
  rw [endedOf, changes, List.countP_eq_zero]
  intro pair hpair
  have hbefore := (List.of_mem_zip hpair).1
  have hidle : pair.1 = .idle := by simpa [or_iff_left_of_imp (h pair.1)] using hbefore
  simp [hidle]

section Counting

variable (db : Db) (events : List CallEvent)

/-- The stored events of a device are all its events, if it is known. -/
theorem countP_stored (deviceId : Uuid) :
    ((storedEvents db events).map CallEvent.entry).countP (·.deviceId = deviceId) =
      if deviceId ∈ db.deviceIds then (statesOf events deviceId).length else 0 := by
  rw [List.countP_map, storedEvents, List.countP_filter, statesOf, List.length_map,
    ← List.countP_eq_length_filter]
  by_cases hknown : deviceId ∈ db.deviceIds
  · rw [if_pos hknown]
    apply List.countP_congr
    intro event _
    by_cases hdevice : event.deviceId = deviceId
    · subst hdevice
      simp [CallEvent.entry, hknown]
    · simp [CallEvent.entry, hdevice]
  · rw [if_neg hknown, List.countP_eq_zero]
    intro event _
    by_cases hdevice : event.deviceId = deviceId
    · subst hdevice
      simp [hknown]
    · simp [CallEvent.entry, hdevice]

/-- No stored event has an end. -/
theorem countP_stored_ended (deviceId : Uuid) :
    ((storedEvents db events).map CallEvent.entry).countP
      (fun entry ↦ entry.deviceId = deviceId ∧ entry.endedAt.isSome) = 0 := by
  rw [List.countP_map, List.countP_eq_zero]
  intro event _
  simp [CallEvent.entry]

/-- The rows of one device are its calls. -/
def DeviceFollows (deviceId : Uuid) : Prop :=
  (if deviceId ∈ db.deviceIds then (statesOf events deviceId).length else 0) =
      callsOf (statesOf events deviceId) ∧
    endedOf (statesOf events deviceId) = 0

theorem deviceFollows_iff (deviceId : Uuid) :
    DeviceFollows db events deviceId ↔ DeviceAtMostOne db events deviceId := by
  unfold DeviceFollows DeviceAtMostOne
  by_cases hknown : deviceId ∈ db.deviceIds
  · simp only [hknown, if_true, not_true_eq_false, forall_const, false_imp_iff, and_true]
    rw [eq_comm, callsOf_eq_length_iff, and_iff_left_iff_imp]
    rintro (hnone | ⟨state, -, hone⟩)
    · rw [hnone]
      rfl
    · rw [hone]
      exact endedOf_singleton state
  · simp only [hknown, if_false, not_false_eq_true, forall_const, false_imp_iff, true_and]
    rw [eq_comm, callsOf_eq_zero_iff, and_iff_left_iff_imp]
    exact endedOf_eq_zero

variable {db events}

theorem DeviceAtMostOne.length_le {deviceId : Uuid} (h : DeviceAtMostOne db events deviceId)
    (hknown : deviceId ∈ db.deviceIds) : (statesOf events deviceId).length ≤ 1 := by
  rcases h.1 hknown with hnone | ⟨state, -, hone⟩
  · simp [hnone]
  · simp [hone]

/-- A device that rings is known, and ringing is the latest that it said. -/
theorem DeviceAtMostOne.ringing_iff {deviceId : Uuid} (h : DeviceAtMostOne db events deviceId) :
    deviceId ∈ db.deviceIds ∧ .ringing ∈ statesOf events deviceId ↔
      (statesOf events deviceId).getLast? = some .ringing := by
  by_cases hknown : deviceId ∈ db.deviceIds
  · rcases h.1 hknown with hnone | ⟨state, -, hone⟩
    · simp [hnone]
    · simp [hone, hknown, eq_comm]
  · apply iff_of_false (fun hringing ↦ hknown hringing.1)
    intro hlast
    cases h.2 hknown _ (List.mem_of_getLast? hlast)

/-- The stored events that ring are the devices that ring. -/
theorem countP_ringing (h : ∀ deviceId, DeviceAtMostOne db events deviceId) :
    (storedEvents db events).countP (·.state = .ringing) =
      (events.map (·.deviceId)).dedup.countP fun deviceId ↦
        (statesOf events deviceId).getLast? = some .ringing := by
  let ringing := (storedEvents db events).filter (·.state = .ringing)
  have hnodup : (ringing.map (·.deviceId)).Nodup := by
    rw [List.nodup_iff_count_le_one]
    intro deviceId
    calc (ringing.map (·.deviceId)).count deviceId
        ≤ ((storedEvents db events).map (·.deviceId)).count deviceId :=
          (List.filter_sublist.map _).count_le deviceId
      _ = ((storedEvents db events).map CallEvent.entry).countP (·.deviceId = deviceId) := by
          rw [List.count, List.countP_map, List.countP_map]
          rfl
      _ ≤ 1 := by
          rw [countP_stored]
          split
          next hknown => exact (h deviceId).length_le hknown
          next => exact Nat.zero_le 1
  have hmem : ∀ deviceId, deviceId ∈ ringing.map (·.deviceId) ↔
      deviceId ∈ (events.map (·.deviceId)).dedup.filter fun deviceId ↦
        (statesOf events deviceId).getLast? = some .ringing := by
    intro deviceId
    have hstored : deviceId ∈ ringing.map (·.deviceId) ↔
        deviceId ∈ db.deviceIds ∧ .ringing ∈ statesOf events deviceId := by
      rw [mem_statesOf]
      simp only [ringing, storedEvents, List.mem_map, List.mem_filter, decide_eq_true_eq]
      grind
    rw [hstored, (h deviceId).ringing_iff, List.mem_filter, List.mem_dedup, decide_eq_true_eq,
      iff_and_self]
    intro hlast
    obtain ⟨event, hevent, hdevice, -⟩ := mem_statesOf.mp (List.mem_of_getLast? hlast)
    exact List.mem_map.mpr ⟨event, hevent, hdevice⟩
  have hperm := (List.perm_ext_iff_of_nodup hnodup ((List.nodup_dedup _).filter _)).mpr hmem
  rw [List.countP_eq_length_filter, List.countP_eq_length_filter, ← hperm.length_eq,
    List.length_map]

/-- The dashboard misses the ringing calls that are too old, and no others. -/
theorem ringing_count {entries : List CallEntry} (count : Nat)
    (hcount : entries.countP (·.state = "ringing") = count) :
    ((entries.mergeSort (newestFirst (·.startedAt))).take 100000).countP (·.state = "ringing") =
        count ↔
      ∀ entry ∈ (entries.mergeSort (newestFirst (·.startedAt))).drop 100000,
        entry.state ≠ "ringing" := by
  obtain ⟨sorted, hsorted⟩ : ∃ sorted, sorted = entries.mergeSort (newestFirst (·.startedAt)) :=
    ⟨_, rfl⟩
  have hperm : sorted.countP (·.state = "ringing") = count := by
    rw [hsorted, (List.mergeSort_perm entries _).countP_eq, hcount]
  rw [← List.take_append_drop 100000 sorted, List.countP_append] at hperm
  have hnone : (sorted.drop 100000).countP (·.state = "ringing") = 0 ↔
      ∀ entry ∈ sorted.drop 100000, entry.state ≠ "ringing" := by
    simp [List.countP_eq_zero]
  rw [← hsorted, ← hnone]
  omega

/-- Among the entries of a database without live calls and those of the events, the ringing ones
are the events that ring. -/
theorem countP_entries_ringing (hhistory : ∀ row ∈ db.calls.rows, row.state = "ended") :
    (callEntries db ++ (storedEvents db events).map CallEvent.entry).countP
        (·.state = "ringing") = (storedEvents db events).countP (·.state = .ringing) := by
  have hnone : (callEntries db).countP (·.state = "ringing") = 0 := by
    rw [callEntries, List.countP_map, List.countP_eq_zero]
    intro row hrow
    simp [callEntry, hhistory row hrow]
  have htext : ∀ state, CenterSink.callStateText state = "ringing" ↔ state = .ringing := by
    intro state
    cases state <;> simp [CenterSink.callStateText]
  rw [List.countP_append, hnone, List.countP_map, Nat.zero_add]
  simp [Function.comp_def, CallEvent.entry, htext]

end Counting

/-- The bookkeeping follows the phones exactly when none of them sends a second event. -/
theorem calls_follow_phones_iff (ctx : WsContext) (center : Center Db) (inputs : List Input)
    (hhistory : ∀ row ∈ center.store.calls.rows, row.state = "ended")
    (hcalls : ∀ input ∈ inputs, CarriesCall input) :
    FollowsPhones center.store (callEvents inputs) (inputs.foldl (receive ctx) center).store ↔
      AtMostOneEvent center.store (callEvents inputs) := by
  have hentries := callEntries_receiveAll ctx center hcalls
  constructor
  · intro h
    have hdevices : ∀ deviceId, DeviceAtMostOne center.store (callEvents inputs) deviceId := by
      intro deviceId
      have hrows := h.calls deviceId
      have hends := h.ended deviceId
      rw [hentries, List.countP_append, countP_stored, Nat.add_left_cancel_iff] at hrows
      rw [hentries, List.countP_append, countP_stored_ended, Nat.add_left_cancel_iff] at hends
      exact (deviceFollows_iff _ _ deviceId).mp ⟨hrows, hends.symm⟩
    refine ⟨hdevices, (ringing_count _ (countP_entries_ringing hhistory)).mp ?_⟩
    rw [← hentries, ← dashboardCalls_ringing, h.ringing, countP_ringing hdevices]
  · intro h
    constructor
    · rw [dashboardCalls_ringing, hentries, ← countP_ringing h.devices]
      exact (ringing_count _ (countP_entries_ringing hhistory)).mpr h.counted
    · intro deviceId
      rw [hentries, List.countP_append, countP_stored]
      exact congrArg _ ((deviceFollows_iff _ _ deviceId).mpr (h.devices deviceId)).1
    · intro deviceId
      rw [hentries, List.countP_append, countP_stored_ended]
      exact congrArg _ ((deviceFollows_iff _ _ deviceId).mpr (h.devices deviceId)).2.symm

/-! ## Samples -/

/-- The phone 1 has said hello. -/
def sampleKnown : Center Db := { emptyCenter with store := samplePhone }

/-- A call event of the phone 1. -/
def sampleCallInput (now : Int64) (messageType : MessageType) (payload : Json) : Input where
  conn := 0
  frame := .text (Envelope.new .nil now messageType ⟨1⟩ payload).toJson
  arrival := {
    sink := { now, freshId := .nil }
    dispatch := Net.sampleDraws }

def sampleRing (now : Int64) : Input := sampleCallInput now .callIncoming (CallIncoming.toValue {
  phoneNumber := "10010"
  contactName := none
  simSlot := none })

def sampleCallState (now : Int64) (state : CallStateKind) : Input :=
  sampleCallInput now .callState (CallState.toValue {
    state
    phoneNumber := none
    callId := none
    contactName := none
    simSlot := none })

theorem envelope_sampleCallInput (now : Int64) (messageType : MessageType) (payload : Json) :
    (sampleCallInput now messageType payload).frame.envelope =
      some (Envelope.new .nil now messageType ⟨1⟩ payload) := by
  simp [sampleCallInput, Frame.envelope, Envelope.fromJson_toJson, Except.toOption]

theorem carriesCall_sampleRing (now : Int64) : CarriesCall (sampleRing now) :=
  ⟨_, envelope_sampleCallInput .., .inr rfl⟩

theorem carriesCall_sampleCallState (now : Int64) (state : CallStateKind) :
    CarriesCall (sampleCallState now state) :=
  ⟨_, envelope_sampleCallInput .., .inl rfl⟩

theorem callEvent_sampleRing (now : Int64) :
    callEvent (sampleRing now) = some { deviceId := ⟨1⟩, state := .ringing, now } := by
  rw [callEvent, sampleRing, envelope_sampleCallInput]
  rfl

theorem callEvent_sampleCallState (now : Int64) (state : CallStateKind) :
    callEvent (sampleCallState now state) = some { deviceId := ⟨1⟩, state, now } := by
  rw [callEvent, sampleCallState, envelope_sampleCallInput]
  cases state <;> rfl

theorem samplePhone_known : (⟨1⟩ : Uuid) ∈ sampleKnown.store.deviceIds :=
  List.mem_singleton_self _

/-- The dashboard follows a phone that rings for the first time. -/
theorem first_ring_is_followed : FollowsPhones sampleKnown.store (callEvents [sampleRing 2000])
    ([sampleRing 2000].foldl (receive sampleContext) sampleKnown).store := by
  have hevents : callEvents [sampleRing 2000] =
      [{ deviceId := ⟨1⟩, state := .ringing, now := 2000 }] := by
    simp [callEvents, callEvent_sampleRing]
  refine (calls_follow_phones_iff sampleContext sampleKnown [sampleRing 2000] ?_ ?_).mpr ⟨?_, ?_⟩
  · intro row hrow
    cases hrow
  · simpa using carriesCall_sampleRing 2000
  · rw [hevents]
    intro deviceId
    by_cases hdevice : deviceId = ⟨1⟩
    · subst hdevice
      exact ⟨fun _ ↦ .inr ⟨.ringing, by decide, rfl⟩,
        fun hunknown ↦ absurd samplePhone_known hunknown⟩
    · have hnone : statesOf [{ deviceId := ⟨1⟩, state := .ringing, now := 2000 }] deviceId =
          [] := by
        apply List.eq_nil_iff_forall_not_mem.mpr
        intro state hstate
        obtain ⟨event, hevent, rfl, -⟩ := mem_statesOf.mp hstate
        exact hdevice (List.mem_singleton.mp hevent ▸ rfl)
      refine ⟨fun _ ↦ .inl hnone, fun _ state hstate ↦ ?_⟩
      rw [hnone] at hstate
      cases hstate
  · have hentries : callEntries sampleKnown.store = [] := rfl
    have hlength : (storedEvents sampleKnown.store (callEvents [sampleRing 2000])).length ≤ 1 := by
      rw [hevents]
      exact List.length_filter_le _ _
    intro entry hentry
    rw [hentries, List.nil_append, List.drop_eq_nil_of_le] at hentry
    · cases hentry
    · simp only [List.length_mergeSort, List.length_map]
      omega

/-- A phone rings, is answered and hangs up: its call has four rows. -/
theorem one_call_makes_four_rows :
    ¬ ∀ (ctx : WsContext) (center : Center Db) (inputs : List Input),
      (∀ row ∈ center.store.calls.rows, row.state = "ended") →
      (∀ input ∈ inputs, CarriesCall input) →
      FollowsPhones center.store (callEvents inputs) (inputs.foldl (receive ctx) center).store := by
  intro h
  let inputs := [sampleRing 2000, sampleCallState 2000 .ringing, sampleCallState 3000 .offhook,
    sampleCallState 4000 .idle]
  have hcalls : ∀ input ∈ inputs, CarriesCall input := by
    simp [inputs, carriesCall_sampleRing, carriesCall_sampleCallState]
  have hstates : statesOf (callEvents inputs) ⟨1⟩ = [.ringing, .ringing, .offhook, .idle] := by
    simp [inputs, callEvents, callEvent_sampleRing, callEvent_sampleCallState, statesOf]
  have hrows := (h sampleContext sampleKnown inputs (fun _ hrow ↦ by cases hrow) hcalls).calls ⟨1⟩
  rw [callEntries_receiveAll sampleContext sampleKnown hcalls, List.countP_append, countP_stored,
    Nat.add_left_cancel_iff, if_pos samplePhone_known, hstates] at hrows
  exact absurd hrows (by decide)

end PhoneBridge.MessageCenter
