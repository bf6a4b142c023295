import PhoneBridge.Proto.Payload

/-!
# The envelope of the Rust side

Every message on the wire is wrapped in an envelope. A frame carries the JSON value of an
envelope; writing and reading JSON text is the JSON library's work.
-/

namespace PhoneBridge.Proto

open Library Serde

/-- All messages on the wire are wrapped in an `Envelope`. -/
structure Envelope where
  v : UInt16
  id : Uuid
  ts : Int64
  messageType : MessageType
  deviceId : Uuid
  payload : Json

namespace Envelope

/-- Construct an envelope with a fresh id and the current timestamp. -/
def new (freshId : Uuid) (now : Int64) (messageType : MessageType) (deviceId : Uuid)
    (payload : Json) : Envelope :=
  { v := 1, id := freshId, ts := now, messageType, deviceId, payload }

/-- Decode the payload with the deserializer of a payload type. -/
def parsePayload {α : Type} (env : Envelope) (decode : Decoder α) : Except SerdeError α :=
  decode env.payload

/-- Any JSON value. -/
def anyValue : Decoder Json := .ok

/-- What the derived deserializer of an envelope accepts. -/
def fromJson : Decoder Envelope := fun json ↦ do
  let read ← record ["v", "id", "ts", "type", "device_id", "payload"] json
  let v ← required read "v" u16
  let id ← required read "id" uuid
  let ts ← required read "ts" i64
  let messageType ← required read "type" (unitVariant MessageType.names)
  let deviceId ← required read "device_id" uuid
  let payload ← required read "payload" anyValue
  return { v, id, ts, messageType, deviceId, payload }

/-- The JSON value that an envelope is written as. -/
def toJson (env : Envelope) : Json :=
  .obj [("v", .int env.v.toNat), ("id", .str env.id.toText), ("ts", .int env.ts.toInt),
    ("type", .str env.messageType.asStr), ("device_id", .str env.deviceId.toText),
    ("payload", env.payload)]

@[simp]
theorem parsePayload_eq {α : Type} (env : Envelope) (decode : Decoder α) :
    env.parsePayload decode = decode env.payload := rfl

end Envelope

@[simp]
theorem uuid_toText (id : Uuid) : uuid (.str id.toText) = .ok id := by
  simp [uuid, bind, Except.bind]

@[simp]
theorem unitVariant_asStr (kind : MessageType) :
    unitVariant MessageType.names (.str kind.asStr) = .ok kind := by
  simp [unitVariant, unitVariant.find]

/-- An envelope that was written is read back. -/
@[simp]
theorem Envelope.fromJson_toJson (env : Envelope) : fromJson env.toJson = .ok env := by
  simp [fromJson, toJson, required, List.lookup_cons, anyValue, bind, Except.bind, pure,
    Except.pure]

end PhoneBridge.Proto
