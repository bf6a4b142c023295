import PhoneBridge.MessageCenter.CenterSink
import PhoneBridge.MessageCenter.Rest

/-!
# The running message-center

`app_state.rs`: the state that the connection handlers and the REST handlers share, with the pinned
fingerprints, and the steps of both kinds of handlers on it.
-/

namespace PhoneBridge.MessageCenter

open Library Proto Net Storage

/-- The state behind every handler. -/
structure AppState where
  hub : Hub Db
  /-- per-device cert fingerprints -/
  pinStore : KeyMap Uuid String

/-- A step of a connection handler or a call of the REST API. -/
inductive ServerLabel
  | connection (label : HubLabel)
  | pairStart (draws : Draws) (deviceId : Uuid)
  | pairAccept (draws : Draws) (dummy : Responder) (deviceId : Uuid) (code : Option String)
  | pairReject (draws : Draws) (dummy : Responder) (deviceId : Uuid) (reason : Option String)
  | incomingAccept (draws : Draws) (deviceId : Uuid)
  | incomingReject (draws : Draws) (deviceId : Uuid)
  | removeDevice (now : Int64) (deviceId : Uuid)

namespace AppState

/-- The state after the start, over a database. -/
def start (store : Db) : AppState where
  hub := {
    center := {
      sessions := .empty
      registry := { inner := .empty, outboxes := fun _ ↦ .new }
      store }
    connections := .empty }
  pinStore := .empty

def withCenter (s : AppState) (center : Center Db) : AppState :=
  { s with hub := { s.hub with center } }

/-- The server without what it holds of the device in memory. -/
def forgetting (s : AppState) (deviceId : Uuid) (store : Db) : AppState :=
  { s.withCenter {
      sessions := { s.hub.center.sessions with
        pairing := s.hub.center.sessions.pairing.remove deviceId }
      registry := s.hub.center.registry.unregister deviceId
      store } with pinStore := s.pinStore.remove deviceId }

/-- The end of `DELETE /api/v1/devices/{id}`, over the audited database and what has become of the
deletion from it. -/
def removed {ε : Type} (message : ε → String) (deviceId : Uuid) (audited : Db)
    (deletion : Except ε Db) (s : AppState) : Response × AppState :=
  match deletion with
  | .error e =>
    let reason := message e
    ({ status := 500, text := s!"db: {reason}" }, s.forgetting deviceId audited)
  | .ok store => ({ status := 204, text := "" }, s.forgetting deviceId store)

/-- `DELETE /api/v1/devices/{id}`. -/
def removeDevice (dbMessage : DbError → String) (now : Int64) (deviceId : Uuid) (s : AppState) :
    Response × AppState :=
  let center := s.hub.center
  let audited := warned center.store
    (center.store.insertAuditLog now (some deviceId) "device.unpair" none)
  s.removed dbMessage deviceId audited (audited.removeDevice deviceId)

def step (ctx : WsContext) (dbMessage : DbError → String) (s : AppState) :
    ServerLabel → Option AppState
  | .connection label => (s.hub.step ctx centerSink label).map fun hub ↦ { s with hub }
  | .pairStart draws deviceId =>
    some (s.withCenter (MessageCenter.pairStart ctx draws deviceId s.hub.center).2)
  | .pairAccept draws dummy deviceId code =>
    some (s.withCenter (MessageCenter.pairAccept ctx draws dummy deviceId code s.hub.center).2)
  | .pairReject draws dummy deviceId reason =>
    some (s.withCenter (MessageCenter.pairReject ctx draws dummy deviceId reason s.hub.center).2)
  | .incomingAccept draws deviceId =>
    some (s.withCenter (MessageCenter.incomingAccept ctx draws deviceId s.hub.center).2)
  | .incomingReject draws deviceId =>
    some (s.withCenter (MessageCenter.incomingReject ctx draws deviceId s.hub.center).2)
  | .removeDevice now deviceId => some (s.removeDevice dbMessage now deviceId).2

end AppState

end PhoneBridge.MessageCenter
