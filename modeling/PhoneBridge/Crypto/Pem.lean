import PhoneBridge.Crypto.Fingerprint
import PhoneBridge.Library.Base64

/-!
# The first block of a PEM text

The two readers of the message-center, `pem_body` of `identity.rs` and `pem_to_der` of
`cert_loader.rs`: both collect the lines between two boundaries and decode them. They differ in how
they recognize a boundary. The lines are compared without the white space around them, so it makes
no difference that a line end may be `\r\n`.
-/

namespace PhoneBridge.Crypto

open Library

/-- Why a block cannot be read. -/
inductive PemError
  | noBlock
  | base64
  deriving DecidableEq, Repr

/-- The text between the first boundary and the next end of a block. -/
def blockText (isBegin isEnd : List Char → Bool) : Bool → List (List Char) → List Char
  | _, [] => []
  | inBlock, line :: lines =>
    if isBegin line then blockText isBegin isEnd true lines
    else if isEnd line then []
    else if inBlock then line ++ blockText isBegin isEnd inBlock lines
    else blockText isBegin isEnd inBlock lines

/-- The bytes of the first block. -/
def readBlock (isBegin isEnd : List Char → Bool) (pem : String) : Except PemError (List UInt8) :=
  let b64 := blockText isBegin isEnd false (Text.trimmedLines pem)
  if b64 = [] then .error .noBlock
  else
    match Base64.decodeStandard b64 with
    | some der => .ok der
    | none => .error .base64

/-- The first block with a label; the boundaries are whole lines. -/
def pemBody (pem label : String) : Except PemError (List UInt8) :=
  readBlock (· = s!"-----BEGIN {label}-----".toList) (· = s!"-----END {label}-----".toList) pem

/-- The first certificate; the boundaries are parts of a line. -/
def pemToDer (pem : String) : Except PemError (List UInt8) :=
  readBlock (fun line ↦ Text.contains (String.ofList line) "BEGIN CERTIFICATE")
    (fun line ↦ Text.contains (String.ofList line) "END CERTIFICATE") pem

/-- The SHA-256 fingerprint of the first certificate in a PEM. -/
def fingerprintFromPem (sha256 : List UInt8 → Digest) (pem : String) : Except PemError String :=
  (pemBody pem "CERTIFICATE").map fun der ↦ certFingerprint (sha256 der)

end PhoneBridge.Crypto
