import PhoneBridge.Proto.Payload

/-!
# The messages of the desktop display

What the message-center and a display endpoint send each other (`payload.rs`): events in one
direction, actions in the other.
-/

namespace PhoneBridge.Proto

open Library

/-- `DisplayEvent` — server → client push. -/
structure DisplayEvent where
  kind : String
  deviceId : Uuid
  envelopeId : Uuid
  timestamp : Int64
  payload : Json
  summary : Json

/-- `DisplayAction` — client → server command. -/
structure DisplayAction where
  kind : String
  envelopeId : Uuid
  deviceId : Uuid
  recipient : Option String
  body : Option String
  callId : Option String := none
  deriving DecidableEq, Repr

/-- `ActionResultEvent` — server → client reply to a `DisplayAction`. -/
structure ActionResultEvent where
  kind : String
  requestEnvelopeId : Uuid
  deviceId : Uuid
  actionKind : String
  ok : Bool
  message : Option String
  timestamp : Int64
  deriving DecidableEq, Repr

def ActionResultEvent.toValue (e : ActionResultEvent) : Json :=
  .objSkipNone [("kind", some (.str e.kind)),
    ("request_envelope_id", some (.str e.requestEnvelopeId.toText)),
    ("device_id", some (.str e.deviceId.toText)), ("action_kind", some (.str e.actionKind)),
    ("ok", some (.bool e.ok)), ("message", e.message.map .str),
    ("timestamp", some (.int e.timestamp.toInt))]

end PhoneBridge.Proto
