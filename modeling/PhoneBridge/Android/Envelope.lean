import PhoneBridge.Android.Payloads
import PhoneBridge.Proto.Envelope

/-!
# The envelope of the phone

`Envelope.kt` and the message types of `MessageType.kt` that the modelled code uses. The phone keeps
ids and types as text; the second half relates its envelopes to those of the Rust side.
-/

namespace PhoneBridge.Android

open Library Kotlinx

namespace MessageType

def deviceHello : String := "device.hello"

def deviceHeartbeat : String := "device.heartbeat"

def devicePairRequest : String := "device.pair.request"

def devicePairChallenge : String := "device.pair.challenge"

def devicePairConfirm : String := "device.pair.confirm"

def devicePairAccept : String := "device.pair.accept"

def devicePairReject : String := "device.pair.reject"

def devicePairComplete : String := "device.pair.complete"

def notifyReceived : String := "notification.received"

def notifyDismissed : String := "notification.dismissed"

def smsReceived : String := "sms.received"

def callState : String := "call.state"

end MessageType

/-- Wire envelope. Mirror of `phonebridge_proto::Envelope` in Rust. -/
structure Envelope where
  v : Int32 := 1
  id : String
  ts : Int64
  type : String
  deviceId : String
  payload : Json

namespace Envelope

/-- Any JSON element. -/
def element : Decoder Json := .ok

/-- What the generated serializer reads. -/
def decode (lexer : Lexer) : Decoder Envelope := fun json ↦ do
  let read ← dataClass json
  let v ← defaulted read "v" (int lexer) 1
  let id ← property read "id" string
  let ts ← property read "ts" (long lexer)
  let type ← property read "type" string
  let deviceId ← property read "device_id" string
  let payload ← property read "payload" element
  return { v, id, ts, type, deviceId, payload }

/-- The JSON element that the generated serializer writes. -/
def encode (env : Envelope) : Json :=
  .obj [("v", .int env.v.toInt), ("id", .str env.id), ("ts", .int env.ts.toInt),
    ("type", .str env.type), ("device_id", .str env.deviceId), ("payload", env.payload)]

end Envelope

/-! ## Envelopes on the other side -/

/-- An envelope of the Rust side as the phone reads it. -/
def Envelope.ofRust (env : Proto.Envelope) : Envelope where
  v := Int32.ofInt env.v.toNat
  id := env.id.toText
  ts := env.ts
  type := env.messageType.asStr
  deviceId := env.deviceId.toText
  payload := env.payload

theorem int_natCast (lexer : Lexer) (n : UInt16) :
    int lexer (.int n.toNat) = .ok (Int32.ofInt n.toNat) := by
  have hlt := n.toNat_lt
  simp only [int, integer_int]
  rw [if_pos (by omega)]
  rfl

/-- The phone reads every envelope that the Rust side writes. -/
theorem Envelope.decode_toJson (lexer : Lexer) (env : Proto.Envelope) :
    decode lexer env.toJson = .ok (ofRust env) := by
  simp [decode, Proto.Envelope.toJson, defaulted, property, List.lookup_cons, int_natCast, element,
    ofRust, bind, Except.bind, pure, Except.pure]

/-- The Rust side reads an envelope of the phone whose ids are UUIDs and whose type it knows. -/
theorem Envelope.fromJson_encode {env : Envelope} {id deviceId : Uuid} {kind : Proto.MessageType}
    (hv : env.v = 1) (hid : env.id = id.toText) (htype : env.type = kind.asStr)
    (hdevice : env.deviceId = deviceId.toText) :
    Proto.Envelope.fromJson env.encode =
      .ok { v := 1, id, ts := env.ts, messageType := kind, deviceId, payload := env.payload } := by
  have hone : Serde.u16 (.int 1) = .ok 1 := rfl
  simp [Proto.Envelope.fromJson, encode, Serde.required, List.lookup_cons, hv, hid, htype, hdevice,
    hone, Proto.Envelope.anyValue, bind, Except.bind, pure, Except.pure]

end PhoneBridge.Android
