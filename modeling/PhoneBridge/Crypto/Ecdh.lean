import PhoneBridge.Library.Base64
import Mathlib.Data.BitVec

/-!
# ECDH P-256 keys

Keypairs, the wire form of public keys and the shared secret. The curve arithmetic and the
generation of keys belong to the cryptographic library and stay parameters.
-/

namespace PhoneBridge.Crypto

open Library

/-- Errors from ECDH operations. -/
inductive EcdhError
  | keygen
  | publicKey
  | publicKeyLength (length : Nat)
  | publicKeyFormat
  | sharedSecretLength (length : Nat)
  | agreement
  | base64
  deriving DecidableEq, Repr

def EcdhError.message : EcdhError → String
  | .keygen => "ECDH keygen failed"
  | .publicKey => "could not extract public key"
  | .publicKeyLength length => s!"public key has wrong length: {length}"
  | .publicKeyFormat => "public key must be uncompressed (leading 0x04)"
  | .sharedSecretLength length => s!"shared secret has wrong length: {length}"
  | .agreement => "ECDH agreement failed"
  | .base64 => "base64 decode failed"

/-- 65-byte uncompressed P-256 public key. -/
structure PublicKey where
  bytes : List UInt8
  length_eq : bytes.length = 65
  deriving DecidableEq

/-- 32-byte shared secret. -/
structure SharedSecret where
  bytes : List UInt8
  length_eq : bytes.length = 32
  deriving DecidableEq

namespace PublicKey

/-- Try to parse from a 65-byte slice. -/
def fromBytes (bytes : List UInt8) : Except EcdhError PublicKey :=
  if h : bytes.length = 65 then
    if bytes.head? = some 0x04 then .ok ⟨bytes, h⟩ else .error .publicKeyFormat
  else .error (.publicKeyLength bytes.length)

/-- Encode as base64 (no padding). -/
def toBase64 (key : PublicKey) : String := Base64.encode key.bytes

/-- Parse from base64 (no padding). -/
def fromBase64 (s : String) : Except EcdhError PublicKey :=
  match Base64.decode s with
  | some bytes => fromBytes bytes
  | none => .error .base64

/-- A key with the uncompressed marker is read back from its own text. -/
theorem fromBase64_encode {bytes : List UInt8} (hlength : bytes.length = 65)
    (hmarker : bytes.head? = some 0x04) :
    fromBase64 (Base64.encode bytes) = .ok ⟨bytes, hlength⟩ := by
  simp [fromBase64, fromBytes, hlength, hmarker]

end PublicKey

/-- An ephemeral ECDH P-256 keypair. -/
structure EphemeralKeyPair where
  scalar : BitVec 256
  publicKey : PublicKey

/-- A keypair for examples. -/
def sampleKeyPair : EphemeralKeyPair where
  scalar := 1
  publicKey := { bytes := List.replicate 65 4, length_eq := rfl }

/-- The primitives of the cryptographic libraries. -/
structure Primitives where
  /-- HMAC-SHA256 of a key and a message. -/
  hmacSha256 : List UInt8 → List UInt8 → List UInt8
  /-- The shared secret of a private scalar and a peer's key, when the key is on the curve. -/
  agreeEphemeral : BitVec 256 → List UInt8 → Option (List UInt8)

/-- Derive a 32-byte shared secret with the peer. -/
def EphemeralKeyPair.agree (primitives : Primitives) (pair : EphemeralKeyPair)
    (peerPublic : PublicKey) : Except EcdhError SharedSecret :=
  match primitives.agreeEphemeral pair.scalar peerPublic.bytes with
  | some shared =>
    if h : shared.length = 32 then .ok ⟨shared, h⟩
    else .error (.sharedSecretLength shared.length)
  | none => .error .agreement

end PhoneBridge.Crypto
