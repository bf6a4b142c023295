import PhoneBridge.Library.Bytes
import PhoneBridge.Library.Text
import PhoneBridge.Crypto.Ecdh

/-!
# The pairing code

Both sides derive a four-digit decimal code from the shared secret with HKDF-SHA256. The hash is a
parameter; the expansion and the rendering are the ones of the program.
-/

namespace PhoneBridge.Crypto

open Library

/-- The blocks `T(i) = HMAC(prk, T(i-1) || info || i)` of the expansion. -/
def expandBlocks (hmac : List UInt8 → List UInt8 → List UInt8) (prk info : List UInt8) :
    List UInt8 → UInt8 → Nat → List UInt8
  | _, _, 0 => []
  | prev, counter, blocks + 1 =>
    let block := hmac prk (prev ++ info ++ [counter + 1])
    block ++ expandBlocks hmac prk info block (counter + 1) blocks

/-- RFC 5869 HKDF using HMAC-SHA256. -/
def hkdfSha256 (hmac : List UInt8 → List UInt8 → List UInt8) (secret salt info : List UInt8)
    (len : Nat) : List UInt8 :=
  (expandBlocks hmac (hmac salt secret) info [] 0 ((len + 31) / 32)).take len

/-- The bytes of an ASCII constant. -/
def asciiBytes (s : String) : List UInt8 := s.toList.map fun c ↦ UInt8.ofNat c.toNat

def hkdfSalt : List UInt8 := asciiBytes "phonebridge/v1/pair"

def hkdfInfo : List UInt8 := asciiBytes "phonebridge/v1/code"

def okmLen : Nat := 4

/-- A number below ten thousand as four decimal digits. -/
def renderCode (n : Nat) : String := String.ofList ((Nat.toDigits 10 n).leftpad 4 '0')

/-- Derive the 4-digit decimal code from a 32-byte shared secret. -/
def derivePairingCode (hmac : List UInt8 → List UInt8 → List UInt8)
    (sharedSecret : SharedSecret) : String :=
  renderCode (Bytes.ofBe (hkdfSha256 hmac sharedSecret.bytes hkdfSalt hkdfInfo okmLen) % 10000)

/-- Four characters, all of them decimal digits. -/
def IsFourDigits (s : String) : Prop :=
  Text.utf8Length s.toList = 4 ∧ ∀ c ∈ s.toList, c.isDigit = true

instance (s : String) : Decidable (IsFourDigits s) :=
  decidable_of_iff (Text.utf8Length s.toList = 4 ∧ s.toList.all Char.isDigit = true) (by
    simp [IsFourDigits])

theorem isFourDigits_renderCode {n : Nat} (h : n < 10000) : IsFourDigits (renderCode n) := by
  have hdigits : ∀ c ∈ (renderCode n).toList, c.isDigit = true := by
    intro c hc
    simp only [renderCode, String.toList_ofList, List.leftpad, List.mem_append,
      List.mem_replicate] at hc
    rcases hc with ⟨-, rfl⟩ | hc
    · rfl
    · exact Nat.isDigit_of_mem_toDigits (by omega) (by omega) hc
  have hwidth : (Nat.toDigits 10 n).length ≤ 4 :=
    (Nat.length_toDigits_le_iff (by omega) (by omega)).mpr (by omega)
  refine ⟨?_, hdigits⟩
  rw [Text.utf8Length_of_ascii fun c hc ↦ Text.toNat_lt_of_isDigit (hdigits c hc)]
  simp [renderCode, hwidth]

/-- The derived code always has the shape that the receiving side checks. -/
theorem isFourDigits_derivePairingCode (hmac : List UInt8 → List UInt8 → List UInt8)
    (sharedSecret : SharedSecret) : IsFourDigits (derivePairingCode hmac sharedSecret) :=
  isFourDigits_renderCode (Nat.mod_lt _ (by omega))

end PhoneBridge.Crypto
