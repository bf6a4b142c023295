import PhoneBridge.Library.Conveyor
import PhoneBridge.Library.Run
import PhoneBridge.Net.Registry

/-!
# What a connection sends

`registry.rs` and the writer task of `ws_handler.rs`. Anything that is sent to a device goes to the
channel of the connection that is registered for it, the replies of a connection go to its own
channel, and its writer task takes one envelope after the other and sends it. The first one is the
desktop's hello. A step is what one task does between two suspension points.
-/

namespace PhoneBridge.Net

open Library Conveyor Proto

/-- The writer task of a connection. -/
structure WriterTask where
  /-- the desktop's hello, when the desktop had a name -/
  hello : Option Envelope
  /-- the envelope that it has taken and not sent -/
  writing : Option Envelope := none
  /-- what has gone out on the socket, oldest first -/
  sent : List Envelope := []
  running : Bool := true
  /-- has the socket refused an envelope? -/
  failed : Bool := false

/-- The connections' channels with their writer tasks. -/
structure Outbound where
  registry : DeviceRegistry
  /-- how many senders each channel has: that of its frame loop and those in the registry -/
  senders : ConnId → Nat
  writers : KeyMap ConnId WriterTask
  /-- what the channels have accepted, oldest first -/
  accepted : List (ConnId × Envelope)

def Outbound.start : Outbound where
  registry := { inner := .empty, outboxes := fun _ ↦ { queue := [], receiving := false } }
  senders := fun _ ↦ 0
  writers := .empty
  accepted := []

inductive OutboundLabel
  /-- a connection is accepted; its channel gets the desktop's hello, when the desktop has a name -/
  | accept (conn : ConnId) (hello : Option Envelope)
  | register (deviceId : Uuid) (conn : ConnId)
  | unregister (deviceId : Uuid)
  /-- the handler of a connection drops its sender -/
  | dropSender (conn : ConnId)
  /-- an envelope is sent to a device -/
  | trySend (deviceId : Uuid) (env : Envelope)
  /-- the frame loop sends a reply, for which it waits until there is room -/
  | reply (conn : ConnId) (env : Envelope)
  | dequeue (conn : ConnId)
  | transmit (conn : ConnId)
  /-- the socket refuses an envelope, and the writer task drops the channel -/
  | transmitFails (conn : ConnId)
  /-- the writer task finds the channel empty and without senders -/
  | writerReturns (conn : ConnId)

namespace Outbound

/-- One sender of a channel more, or one less. -/
def addSender (senders : ConnId → Nat) (conn : ConnId) : ConnId → Nat :=
  fun other ↦ if other = conn then senders other + 1 else senders other

def dropSender (senders : ConnId → Nat) (conn : Option ConnId) : ConnId → Nat :=
  fun other ↦ if some other = conn then senders other - 1 else senders other

/-- A new channel holds the hello from the start. -/
def accept (s : Outbound) (conn : ConnId) (hello : Option Envelope) : Option Outbound :=
  if s.writers.contains conn then none
  else some {
    registry := s.registry.setOutbox conn { queue := hello.toList, receiving := true }
    senders := addSender s.senders conn
    writers := s.writers.insert conn { hello }
    accepted := s.accepted ++ hello.toList.map (conn, ·) }

/-- The sender that was registered for the device before is dropped. -/
def register (s : Outbound) (deviceId : Uuid) (conn : ConnId) : Option Outbound :=
  if s.writers.contains conn then
    some { s with
      registry := s.registry.register deviceId conn
      senders := addSender (dropSender s.senders (s.registry.inner.get deviceId)) conn }
  else none

def unregister (s : Outbound) (deviceId : Uuid) : Outbound :=
  { s with
    registry := s.registry.unregister deviceId
    senders := dropSender s.senders (s.registry.inner.get deviceId) }

/-- What is accepted goes to the connection that is registered for the device. -/
def trySend (s : Outbound) (deviceId : Uuid) (env : Envelope) : Outbound :=
  match s.registry.inner.get deviceId, s.registry.trySend deviceId env with
  | some conn, .ok registry => { s with registry, accepted := s.accepted ++ [(conn, env)] }
  | _, _ => s

/-- A reply to a connection whose writer is gone is dropped. -/
def reply (s : Outbound) (conn : ConnId) (env : Envelope) : Option Outbound :=
  let outbox := s.registry.outboxes conn
  if outbox.receiving then
    if outbox.queue.length < Outbox.capacity then
      some { s with
        registry := s.registry.send conn env
        accepted := s.accepted ++ [(conn, env)] }
    else none
  else some s

def dequeue (s : Outbound) (conn : ConnId) : Option Outbound :=
  (s.writers.get conn).bind fun writer ↦
    match writer.running, writer.writing, (s.registry.outboxes conn).queue with
    | true, none, env :: queue => some { s with
        registry := s.registry.setOutbox conn { s.registry.outboxes conn with queue }
        writers := s.writers.insert conn { writer with writing := some env } }
    | _, _, _ => none

def transmit (s : Outbound) (conn : ConnId) : Option Outbound :=
  (s.writers.get conn).bind fun writer ↦
    writer.writing.map fun env ↦
      { s with
        writers :=
          s.writers.insert conn { writer with writing := none, sent := writer.sent ++ [env] } }

/-- The writer task ends and drops its end of the channel. -/
def endWriter (s : Outbound) (conn : ConnId) (writer : WriterTask) (failed : Bool) : Outbound :=
  { s with
    registry := s.registry.setOutbox conn { queue := [], receiving := false }
    writers := s.writers.insert conn { writer with writing := none, running := false, failed } }

def transmitFails (s : Outbound) (conn : ConnId) : Option Outbound :=
  (s.writers.get conn).bind fun writer ↦
    if writer.writing.isSome then some (s.endWriter conn writer true) else none

def writerReturns (s : Outbound) (conn : ConnId) : Option Outbound :=
  (s.writers.get conn).bind fun writer ↦
    if writer.running = true ∧ writer.writing = none ∧ (s.registry.outboxes conn).queue = [] ∧
        s.senders conn = 0 then
      some (s.endWriter conn writer writer.failed)
    else none

def step (s : Outbound) : OutboundLabel → Option Outbound
  | .accept conn hello => s.accept conn hello
  | .register deviceId conn => s.register deviceId conn
  | .unregister deviceId => some (s.unregister deviceId)
  | .dropSender conn => some { s with senders := dropSender s.senders (some conn) }
  | .trySend deviceId env => some (s.trySend deviceId env)
  | .reply conn env => s.reply conn env
  | .dequeue conn => s.dequeue conn
  | .transmit conn => s.transmit conn
  | .transmitFails conn => s.transmitFails conn
  | .writerReturns conn => s.writerReturns conn

/-! ## Each connection -/

/-- What the channel of a connection and its writer task hold. -/
def carried (s : Outbound) (conn : ConnId) (writer : WriterTask) : List Envelope :=
  writer.writing.toList ++ (s.registry.outboxes conn).queue

/-- The channel is open as long as the writer task runs, and what it has accepted is sent in order,
all of it unless the socket refuses an envelope. -/
structure Delivers (s : Outbound) (conn : ConnId) (writer : WriterTask) : Prop where
  helloFirst : writer.hello.toList <+: lane s.accepted conn
  receiving : (s.registry.outboxes conn).receiving = writer.running
  conveys : Conveys (writer.failed = false) (lane s.accepted conn) writer.sent
    (s.carried conn writer)
  bounded : (s.registry.outboxes conn).queue.length ≤ Outbox.capacity
  intact : writer.running = true → writer.failed = false
  ended : writer.running = false → writer.writing = none ∧ (s.registry.outboxes conn).queue = []

/-- A connection that has not been accepted has a closed channel and has been sent nothing. -/
structure Inv (s : Outbound) : Prop where
  delivers : ∀ conn writer, s.writers.get conn = some writer → s.Delivers conn writer
  unopened : ∀ conn, s.writers.get conn = none →
    (s.registry.outboxes conn).receiving = false ∧ lane s.accepted conn = []

variable {s t : Outbound} {conn : ConnId} {env : Envelope}

theorem inv_start : start.Inv where
  delivers _ _ h := by cases h
  unopened _ _ := ⟨rfl, rfl⟩

/-- A step that leaves the channels and the writer tasks. -/
theorem Inv.of_same (hs : s.Inv) (houtboxes : t.registry.outboxes = s.registry.outboxes)
    (hwriters : t.writers = s.writers) (haccepted : t.accepted = s.accepted) : t.Inv where
  delivers conn writer hget := by
    rw [hwriters] at hget
    obtain ⟨hhello, hreceiving, hconveys, hbounded, hintact, hended⟩ := hs.delivers conn writer hget
    rw [← haccepted] at hhello
    rw [carried, ← houtboxes, ← haccepted] at hconveys
    rw [← houtboxes] at hreceiving hbounded hended
    exact ⟨hhello, hreceiving, hconveys, hbounded, hintact, hended⟩
  unopened conn hget := by
    rw [houtboxes, haccepted]
    exact hs.unopened conn (hwriters ▸ hget)

/-- A step that concerns one connection only. -/
theorem Inv.of_others (hs : s.Inv) {writer : WriterTask}
    (houtboxes : ∀ other ≠ conn, t.registry.outboxes other = s.registry.outboxes other)
    (hlanes : ∀ other ≠ conn, lane t.accepted other = lane s.accepted other)
    (hwriters : t.writers = s.writers.insert conn writer) (hdelivers : t.Delivers conn writer) :
    t.Inv where
  delivers other writer' hget := by
    rw [hwriters] at hget
    rcases KeyMap.get_insert_eq_some.mp hget with ⟨rfl, rfl⟩ | ⟨hne, hold⟩
    · exact hdelivers
    · obtain ⟨hhello, hreceiving, hconveys, hbounded, hintact, hended⟩ :=
        hs.delivers other writer' hold
      rw [← hlanes other hne] at hhello
      rw [carried, ← houtboxes other hne, ← hlanes other hne] at hconveys
      rw [← houtboxes other hne] at hreceiving hbounded hended
      exact ⟨hhello, hreceiving, hconveys, hbounded, hintact, hended⟩
  unopened other hget := by
    rw [hwriters, KeyMap.get_insert] at hget
    split_ifs at hget with hne
    rw [houtboxes other hne, hlanes other hne]
    exact hs.unopened other hget

theorem inv_accept {hello : Option Envelope} (hs : s.Inv) (h : s.accept conn hello = some t) :
    t.Inv := by
  obtain ⟨hfresh, ht⟩ := Option.ite_none_left_eq_some.mp h
  cases ht
  have hnone : s.writers.get conn = none := by simpa using hfresh
  obtain ⟨-, hlane⟩ := hs.unopened conn hnone
  refine hs.of_others (fun other hne ↦ if_neg hne) (fun other hne ↦ lane_append_of_ne hne _) rfl ?_
  have houtbox : (s.registry.setOutbox conn { queue := hello.toList, receiving := true }).outboxes
      conn = { queue := hello.toList, receiving := true } := if_pos rfl
  exact {
    helloFirst := by
      rw [lane_append_self, hlane]
      exact List.prefix_refl _
    receiving := congrArg Outbox.receiving houtbox
    conveys := by
      refine .of_eq ?_
      rw [lane_append_self, hlane, carried, houtbox]
      rfl
    bounded := by
      rw [houtbox]
      cases hello with
      | none => exact Nat.zero_le _
      | some env => exact (by decide : 1 ≤ Outbox.capacity)
    intact := fun _ ↦ rfl
    ended := fun hended ↦ by cases hended }

/-- A channel with room accepts an envelope. -/
theorem inv_enqueue (hs : s.Inv) (hreceiving : (s.registry.outboxes conn).receiving = true)
    (hroom : (s.registry.outboxes conn).queue.length < Outbox.capacity) :
    Inv { s with
      registry := s.registry.send conn env
      accepted := s.accepted ++ [(conn, env)] } := by
  obtain ⟨writer, hwriter⟩ : ∃ writer, s.writers.get conn = some writer := by
    rw [← Option.ne_none_iff_exists']
    intro hnone
    obtain ⟨hclosed, -⟩ := hs.unopened conn hnone
    exact Bool.false_ne_true (hclosed.symm.trans hreceiving)
  have hold := hs.delivers conn writer hwriter
  have hrunning : writer.running = true := hold.receiving.symm.trans hreceiving
  have houtbox : (s.registry.send conn env).outboxes conn =
      { queue := (s.registry.outboxes conn).queue ++ [env], receiving := true } := by
    simp [DeviceRegistry.send, DeviceRegistry.setOutbox, Outbox.send, hreceiving]
  refine hs.of_others (fun other hne ↦ if_neg hne) (fun other hne ↦ lane_snoc_of_ne hne)
    (KeyMap.insert_get hwriter).symm ?_
  exact {
    helloFirst := by
      rw [lane_snoc_self]
      exact hold.helloFirst.trans (List.prefix_append _ _)
    receiving := (congrArg Outbox.receiving houtbox).trans hrunning.symm
    conveys := by
      rw [lane_snoc_self, carried, houtbox, ← List.append_assoc]
      exact hold.conveys.enter (hold.intact hrunning) env
    bounded := by
      rw [houtbox, List.length_append]
      exact hroom
    intact := hold.intact
    ended := fun hended ↦ absurd (hrunning.symm.trans hended) (by decide) }

theorem inv_trySend {deviceId : Uuid} (hs : s.Inv) : (s.trySend deviceId env).Inv := by
  unfold trySend
  split
  · next conn registry hentry hsent =>
    obtain ⟨tx, htx, hreceiving, hroom, rfl⟩ := DeviceRegistry.trySend_eq_ok.mp hsent
    obtain rfl := Option.some.inj (hentry.symm.trans htx)
    exact inv_enqueue hs hreceiving hroom
  · exact hs

theorem inv_reply (hs : s.Inv) (h : s.reply conn env = some t) : t.Inv := by
  simp only [reply] at h
  split_ifs at h with hreceiving hroom
  · cases h
    exact inv_enqueue hs hreceiving hroom
  · cases h
    exact hs

theorem inv_dequeue (hs : s.Inv) (h : s.dequeue conn = some t) : t.Inv := by
  obtain ⟨writer, hwriter, h⟩ := Option.bind_eq_some_iff.mp h
  split at h
  · next next queue hrunning hwriting hqueue =>
    cases h
    have hold := hs.delivers conn writer hwriter
    refine hs.of_others (fun other hne ↦ if_neg hne) (fun _ _ ↦ rfl) rfl ?_
    have houtbox : (s.registry.setOutbox conn { s.registry.outboxes conn with queue }).outboxes
        conn = { s.registry.outboxes conn with queue } := if_pos rfl
    exact {
      helloFirst := hold.helloFirst
      receiving := (congrArg Outbox.receiving houtbox).trans hold.receiving
      conveys := by
        refine hold.conveys.move ?_
        rw [carried, carried, houtbox, hwriting, hqueue]
        rfl
      bounded := by
        have hbounded := hold.bounded
        rw [hqueue] at hbounded
        rw [houtbox]
        exact (Nat.le_succ _).trans hbounded
      intact := hold.intact
      ended := fun hended ↦ absurd (hrunning.symm.trans hended) (by decide) }
  · cases h

theorem inv_transmit (hs : s.Inv) (h : s.transmit conn = some t) : t.Inv := by
  obtain ⟨writer, hwriter, h⟩ := Option.bind_eq_some_iff.mp h
  obtain ⟨next, hwriting, rfl⟩ := Option.map_eq_some_iff.mp h
  have hold := hs.delivers conn writer hwriter
  refine hs.of_others (fun _ _ ↦ rfl) (fun _ _ ↦ rfl) rfl ?_
  exact {
    helloFirst := hold.helloFirst
    receiving := hold.receiving
    conveys := by
      refine hold.conveys.move ?_
      simp [carried, hwriting]
    bounded := hold.bounded
    intact := hold.intact
    ended := fun hended ↦ ⟨rfl, (hold.ended hended).2⟩ }

/-- A writer task ends with nothing left to send, or because it has failed. -/
theorem inv_endWriter {writer : WriterTask} {failed : Bool} (hs : s.Inv)
    (hwriter : s.writers.get conn = some writer)
    (hlost : failed = false → writer.failed = false ∧ s.carried conn writer = []) :
    (s.endWriter conn writer failed).Inv := by
  have hold := hs.delivers conn writer hwriter
  refine hs.of_others (fun other hne ↦ if_neg hne) (fun _ _ ↦ rfl) rfl ?_
  have houtbox : (s.registry.setOutbox conn { queue := [], receiving := false }).outboxes conn =
      { queue := [], receiving := false } := if_pos rfl
  exact {
    helloFirst := hold.helloFirst
    receiving := congrArg Outbox.receiving houtbox
    conveys := by
      have hempty : (s.endWriter conn writer failed).carried conn
          { writer with writing := none, running := false, failed } = [] := by
        rw [carried, endWriter, houtbox]
        rfl
      rw [hempty]
      refine ⟨?_, fun hintact ↦ ?_⟩
      · rw [List.append_nil]
        exact hold.conveys.left_prefix
      · obtain ⟨hfine, hcarried⟩ := hlost hintact
        have hconveys := hold.conveys
        rw [hcarried] at hconveys
        exact hconveys.complete hfine
    bounded := by
      rw [endWriter, houtbox]
      exact Nat.zero_le _
    intact := fun hrunning ↦ by cases hrunning
    ended := fun _ ↦ ⟨rfl, congrArg Outbox.queue houtbox⟩ }

theorem inv_step {label : OutboundLabel} (hs : s.Inv) (h : s.step label = some t) : t.Inv := by
  cases label with
  | accept conn hello => exact inv_accept hs h
  | register deviceId conn =>
    obtain ⟨-, ht⟩ := Option.ite_none_right_eq_some.mp h
    cases ht
    exact hs.of_same rfl rfl rfl
  | unregister deviceId =>
    cases h
    exact hs.of_same rfl rfl rfl
  | dropSender conn =>
    cases h
    exact hs.of_same rfl rfl rfl
  | trySend deviceId env =>
    cases h
    exact inv_trySend hs
  | reply conn env => exact inv_reply hs h
  | dequeue conn => exact inv_dequeue hs h
  | transmit conn => exact inv_transmit hs h
  | transmitFails conn =>
    obtain ⟨writer, hwriter, h⟩ := Option.bind_eq_some_iff.mp h
    obtain ⟨-, ht⟩ := Option.ite_none_right_eq_some.mp h
    cases ht
    exact inv_endWriter hs hwriter fun hfailed ↦ by cases hfailed
  | writerReturns conn =>
    obtain ⟨writer, hwriter, h⟩ := Option.bind_eq_some_iff.mp h
    obtain ⟨⟨-, hwriting, hqueue, -⟩, ht⟩ := Option.ite_none_right_eq_some.mp h
    cases ht
    refine inv_endWriter hs hwriter fun hfine ↦ ⟨hfine, ?_⟩
    rw [carried, hwriting, hqueue]
    rfl

/-! ## Every run -/

/-- What has been accepted for a connection goes out on its socket, in that order and the desktop's
hello first. Only a socket that refuses an envelope loses any, and no envelope goes out twice. -/
structure SendsOnce (s : Outbound) : Prop where
  helloFirst : ∀ conn writer hello env rest, s.writers.get conn = some writer →
    writer.hello = some hello → writer.sent = env :: rest → env = hello
  ordered : ∀ conn writer, s.writers.get conn = some writer → writer.sent <+: lane s.accepted conn
  complete : ∀ conn writer, s.writers.get conn = some writer → writer.failed = false →
    writer.sent ++ s.carried conn writer = lane s.accepted conn
  bounded : ∀ conn writer, s.writers.get conn = some writer →
    (s.carried conn writer).length ≤ Outbox.capacity + 1
  once : (s.accepted.map fun entry ↦ entry.2.id).Nodup → ∀ conn conn' writer writer',
    s.writers.get conn = some writer → s.writers.get conn' = some writer' →
      (writer.sent.map Envelope.id).Nodup ∧ ∀ env ∈ writer.sent, ∀ env' ∈ writer'.sent,
        env.id = env'.id → conn = conn'

theorem Inv.sendsOnce (hs : s.Inv) : s.SendsOnce where
  helloFirst conn writer hello env rest hwriter hhello hsent := by
    obtain ⟨more, hmore⟩ := (hs.delivers conn writer hwriter).helloFirst
    obtain ⟨later, hlater⟩ := (hs.delivers conn writer hwriter).conveys.left_prefix
    rw [hhello] at hmore
    rw [← hmore, hsent] at hlater
    exact (List.cons_eq_cons.mp hlater).1
  ordered conn writer hwriter := (hs.delivers conn writer hwriter).conveys.left_prefix
  complete conn writer hwriter := (hs.delivers conn writer hwriter).conveys.complete
  bounded conn writer hwriter := by
    have hqueue := (hs.delivers conn writer hwriter).bounded
    have hwriting : writer.writing.toList.length ≤ 1 := by cases writer.writing <;> simp
    rw [carried, List.length_append]
    omega
  once hdistinct conn conn' writer writer' hwriter hwriter' := by
    have hsent := (hs.delivers conn writer hwriter).conveys.left_prefix
    have hsent' := (hs.delivers conn' writer' hwriter').conveys.left_prefix
    constructor
    · have hlane := (hsent.sublist.trans (lane_sublist s.accepted conn)).map Envelope.id
      rw [List.map_map] at hlane
      exact hdistinct.sublist hlane
    · intro env henv env' henv' hid
      exact eq_of_mem_lanes hdistinct (hsent.subset henv) (hsent'.subset henv') hid

/-- For any number of connections, and however their handlers, the writer tasks and those who send
to the devices interleave. -/
theorem connections_send_once (labels : List OutboundLabel) (t : Outbound)
    (hrun : Run.exec step start labels = some t) : t.SendsOnce :=
  (Run.invariant Inv (fun _ _ _ ↦ inv_step) hrun inv_start).sendsOnce

def sampleHeartbeat (id : Uuid) : Envelope :=
  .new id 0 .deviceHeartbeat .nil .null

/-- A device is registered by two connections, one after the other. -/
def reregistered : List OutboundLabel :=
  [.accept 0 (some (sampleHeartbeat ⟨0⟩)), .register .nil 0, .trySend .nil (sampleHeartbeat ⟨1⟩),
    .accept 1 (some (sampleHeartbeat ⟨2⟩)), .register .nil 1, .trySend .nil (sampleHeartbeat ⟨3⟩),
    .dequeue 0, .transmit 0, .dequeue 1, .dequeue 0, .transmit 1, .transmit 0]

theorem connections_send_once_sample : ∃ t, Run.exec step start reregistered = some t ∧
    (t.writers.get 0).map WriterTask.sent = some [sampleHeartbeat ⟨0⟩, sampleHeartbeat ⟨1⟩] ∧
    (t.writers.get 1).map WriterTask.sent = some [sampleHeartbeat ⟨2⟩] ∧ t.SendsOnce := by
  have hrun : ∃ t, Run.exec step start reregistered = some t ∧
      (t.writers.get 0).map WriterTask.sent = some [sampleHeartbeat ⟨0⟩, sampleHeartbeat ⟨1⟩] ∧
      (t.writers.get 1).map WriterTask.sent = some [sampleHeartbeat ⟨2⟩] :=
    ⟨_, rfl, rfl, rfl⟩
  obtain ⟨t, hexec, hfirst, hsecond⟩ := hrun
  exact ⟨t, hexec, hfirst, hsecond, connections_send_once reregistered t hexec⟩

end Outbound

end PhoneBridge.Net
