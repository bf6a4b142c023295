import PhoneBridge.Library.KeyMap
import PhoneBridge.Proto.Envelope

/-!
# The registry of connected devices

`registry.rs`: the outbound sender of each connected device. A sender is named by its connection;
the receiving half of the channel is the connection's outbox, drained by its writer task.
-/

namespace PhoneBridge.Net

open Library Proto

/-- A connection, and with it the sender of its outbound channel. -/
abbrev ConnId := Nat

/-- Errors from downstream sends. -/
inductive DownstreamError
  | notConnected (deviceId : Uuid)
  | queueFull (deviceId : Uuid)
  deriving DecidableEq, Repr

/-- The outbound channel of a connection. -/
structure Outbox where
  queue : List Envelope
  receiving : Bool

namespace Outbox

/-- Messages that fit into the channel before a sender has to wait. -/
def capacity : Nat := 32

/-- The channel of a new connection. -/
def new : Outbox := { queue := [], receiving := true }

/-- An awaiting send: the message is queued once the writer has made room. -/
def send (outbox : Outbox) (env : Envelope) : Outbox :=
  if outbox.receiving then { outbox with queue := outbox.queue ++ [env] } else outbox

/-- A send that fails when the channel is full or closed. -/
def trySend (outbox : Outbox) (env : Envelope) : Option Outbox :=
  if outbox.receiving ∧ outbox.queue.length < capacity then some (outbox.send env) else none

end Outbox

/-- `device_id -> sender` for outbound messages, with the channels that the senders feed. -/
structure DeviceRegistry where
  inner : KeyMap Uuid ConnId
  outboxes : ConnId → Outbox

namespace DeviceRegistry

/-- Register a device with its outbound channel. -/
def register (registry : DeviceRegistry) (deviceId : Uuid) (tx : ConnId) : DeviceRegistry :=
  { registry with inner := registry.inner.insert deviceId tx }

/-- Remove a device's channel (e.g. on disconnect). -/
def unregister (registry : DeviceRegistry) (deviceId : Uuid) : DeviceRegistry :=
  { registry with inner := registry.inner.remove deviceId }

/-- Is the device among the connected ids? -/
def isConnected (registry : DeviceRegistry) (deviceId : Uuid) : Bool :=
  registry.inner.contains deviceId

/-- Replace the channel of a connection. -/
def setOutbox (registry : DeviceRegistry) (conn : ConnId) (outbox : Outbox) : DeviceRegistry :=
  { registry with outboxes := fun other ↦ if other = conn then outbox else registry.outboxes other }

/-- Queue an envelope on a connection's own channel. -/
def send (registry : DeviceRegistry) (conn : ConnId) (env : Envelope) : DeviceRegistry :=
  registry.setOutbox conn ((registry.outboxes conn).send env)

/-- Try to send an envelope to a device. -/
def trySend (registry : DeviceRegistry) (deviceId : Uuid) (env : Envelope) :
    Except DownstreamError DeviceRegistry :=
  match registry.inner.get deviceId with
  | none => .error (.notConnected deviceId)
  | some tx =>
    match (registry.outboxes tx).trySend env with
    | none => .error (.queueFull deviceId)
    | some outbox => .ok (registry.setOutbox tx outbox)

@[simp]
theorem inner_register (registry : DeviceRegistry) (deviceId : Uuid) (tx : ConnId) :
    (registry.register deviceId tx).inner = registry.inner.insert deviceId tx := rfl

@[simp]
theorem inner_unregister (registry : DeviceRegistry) (deviceId : Uuid) :
    (registry.unregister deviceId).inner = registry.inner.remove deviceId := rfl

@[simp]
theorem inner_setOutbox (registry : DeviceRegistry) (conn : ConnId) (outbox : Outbox) :
    (registry.setOutbox conn outbox).inner = registry.inner := rfl

@[simp]
theorem inner_send (registry : DeviceRegistry) (conn : ConnId) (env : Envelope) :
    (registry.send conn env).inner = registry.inner := rfl

/-- A successful send appends to one channel and leaves the registry as it was. -/
theorem trySend_eq_ok {registry sent : DeviceRegistry} {deviceId : Uuid} {env : Envelope} :
    registry.trySend deviceId env = .ok sent ↔
      ∃ tx, registry.inner.get deviceId = some tx ∧ (registry.outboxes tx).receiving = true ∧
        (registry.outboxes tx).queue.length < Outbox.capacity ∧ sent = registry.send tx env := by
  cases hentry : registry.inner.get deviceId with
  | none => simp [trySend, hentry]
  | some tx =>
    by_cases hroom : (registry.outboxes tx).receiving = true ∧
        (registry.outboxes tx).queue.length < Outbox.capacity
    · simp [trySend, hentry, Outbox.trySend, hroom, send, @eq_comm _ sent]
    · simp only [trySend, hentry, Outbox.trySend, hroom, Option.some.injEq, exists_eq_left',
        reduceIte, reduceCtorEq, false_iff]
      rintro ⟨hreceiving, hlength, -⟩
      exact hroom ⟨hreceiving, hlength⟩

/-- Whatever waits on the channels meets a condition. -/
def EveryQueued (P : Envelope → Prop) (registry : DeviceRegistry) : Prop :=
  ∀ conn, ∀ env ∈ (registry.outboxes conn).queue, P env

section Queues

variable {P : Envelope → Prop} {registry sent : DeviceRegistry} {env : Envelope}
  (h : EveryQueued P registry)

include h

theorem EveryQueued.setOutbox (conn : ConnId) {outbox : Outbox}
    (houtbox : ∀ env ∈ outbox.queue, P env) : EveryQueued P (registry.setOutbox conn outbox) := by
  intro other env henv
  simp only [DeviceRegistry.setOutbox] at henv
  split at henv
  · exact houtbox env henv
  · exact h other env henv

theorem EveryQueued.send (conn : ConnId) (henv : P env) :
    EveryQueued P (registry.send conn env) := by
  apply h.setOutbox
  intro queued hqueued
  unfold Outbox.send at hqueued
  split at hqueued
  · rw [List.mem_append, List.mem_singleton] at hqueued
    cases hqueued with
    | inl hbefore => exact h conn queued hbefore
    | inr hnew => exact hnew ▸ henv
  · exact h conn queued hqueued

theorem EveryQueued.trySend {deviceId : Uuid} (henv : P env)
    (hsent : registry.trySend deviceId env = .ok sent) : EveryQueued P sent := by
  obtain ⟨tx, -, -, -, rfl⟩ := DeviceRegistry.trySend_eq_ok.mp hsent
  exact h.send tx henv

/-- A try whose failure changes nothing. -/
theorem EveryQueued.tried (deviceId : Uuid) (henv : P env) :
    EveryQueued P ((registry.trySend deviceId env).toOption.getD registry) := by
  cases hsent : registry.trySend deviceId env with
  | error e => exact h
  | ok sent => exact h.trySend henv hsent

end Queues

end DeviceRegistry

end PhoneBridge.Net
