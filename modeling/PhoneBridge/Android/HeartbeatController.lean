import PhoneBridge.Android.BridgeService

/-!
# The application-level heartbeat of the phone

`HeartbeatController.kt`: a round sends a heartbeat, collects the echoes for five seconds and counts
a miss when none of them carries the id of the heartbeat. The third miss in a row forces a reconnect.
Time is the order of the steps.
-/

namespace PhoneBridge.Android

open Library Kotlinx

/-- Where `runLoop` stands. A heartbeat that is `sent` has not begun to collect echoes. -/
inductive HeartbeatPhase
  | awaitingConnection
  | sending
  | sent (id : String)
  | collecting (id : String)
  | reconnecting
  | resting
  deriving DecidableEq

structure HeartbeatController where
  phase : HeartbeatPhase := .awaitingConnection
  missed : Nat := 0

/-- Consecutive misses that force a reconnect. -/
def missedBeforeReconnect : Nat := 3

namespace HeartbeatController

/-- The heartbeat of the round in progress. -/
def round (h : HeartbeatController) : Option String :=
  match h.phase with
  | .sent id | .collecting id => some id
  | .awaitingConnection | .sending | .reconnecting | .resting => none

/-- The client is connected; after a forced reconnect the round still rests. -/
def connected (h : HeartbeatController) : Option HeartbeatController :=
  match h.phase with
  | .awaitingConnection => some { h with phase := .sending }
  | .reconnecting => some { h with phase := .resting }
  | _ => none

/-- One more miss; the third one in a row forces a reconnect. -/
def miss (h : HeartbeatController) (client : BridgeClient) (next reconnected : HeartbeatPhase) :
    HeartbeatController × BridgeClient :=
  if missedBeforeReconnect ≤ h.missed + 1 then
    ({ phase := reconnected, missed := 0 }, client.forceReconnect)
  else ({ phase := next, missed := h.missed + 1 }, client)

/-- The heartbeat of `sendOne`. -/
def heartbeat (store : IdentityStore) (draws : Draws) : Envelope :=
  draws.envelope MessageType.deviceHeartbeat store.deviceId (DeviceHeartbeatPayload.encode {})

/-- The top of the loop: send a heartbeat, or count a miss when the channel is full. -/
def sendOne (store : IdentityStore) (draws : Draws) (h : HeartbeatController)
    (client : BridgeClient) : HeartbeatController × BridgeClient :=
  match client.send (heartbeat store draws) with
  | (true, client) => ({ h with phase := .sent (heartbeat store draws).id }, client)
  | (false, client) => h.miss client .resting .resting

/-- `heartbeatEchoes.first` begins to collect. -/
def collect (h : HeartbeatController) : Option HeartbeatController :=
  match h.phase with
  | .sent id => some { h with phase := .collecting id }
  | _ => none

/-- An emission of `heartbeatEchoes`; without a collector it is lost. -/
def echo (id : String) (h : HeartbeatController) : HeartbeatController :=
  if h.phase = .collecting id then { phase := .resting, missed := 0 } else h

/-- The five seconds are over. -/
def timeout (h : HeartbeatController) (client : BridgeClient) :
    Option (HeartbeatController × BridgeClient) :=
  h.round.map fun _ ↦ h.miss client .resting .reconnecting

/-- The pause between two rounds is over. -/
def rested (h : HeartbeatController) : Option HeartbeatController :=
  match h.phase with
  | .resting => some { h with phase := .sending }
  | _ => none

/-- An envelope from the desktop, as far as the controller can see it. -/
def receive (env : Envelope) (h : HeartbeatController) : HeartbeatController :=
  if env.type = MessageType.deviceHeartbeat then h.echo env.id else h

end HeartbeatController

end PhoneBridge.Android
