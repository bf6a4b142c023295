import PhoneBridge.Crypto.PairingCode
import PhoneBridge.Library.Bytes
import PhoneBridge.Library.Hkdf

/-!
# The pairing code on the desktop

`derive_pairing_code` with its 32-bit arithmetic, over the `hkdf` crate, and the code that the rest
of the desktop's model uses.
-/

namespace PhoneBridge.Crypto

open Library

/-- The `hkdf` crate over a hash: key derivation by the standard, up to 255 blocks. -/
structure HkdfCrate (mac : Hkdf.Mac 32) where
  /-- `Hkdf::new(Some(salt), ikm)` and `expand(info, okm)` for an `okm` of some length. -/
  expand : List UInt8 → List UInt8 → List UInt8 → Nat → Option (List UInt8)
  expand_eq : ∀ salt ikm info length, length ≤ 255 * 32 →
    expand salt ikm info length = some (Hkdf.derive mac salt ikm info length)

/-- The derivation that the standard describes, without the outputs that it rules out. -/
def HkdfCrate.standard (mac : Hkdf.Mac 32) : HkdfCrate mac where
  expand salt ikm info length :=
    if length ≤ 255 * 32 then some (Hkdf.derive mac salt ikm info length) else none
  expand_eq _ _ _ _ h := if_pos h

variable {mac : Hkdf.Mac 32} (crate : HkdfCrate mac)

/-- Derive the 4-digit decimal code from a 32-byte shared secret; `none` when `expect` panics. -/
def HkdfCrate.derivePairingCode (sharedSecret : SharedSecret) : Option String := do
  let okm ← crate.expand hkdfSalt sharedSecret.bytes hkdfInfo okmLen
  let n := UInt32.ofNat (Bytes.ofBe okm)
  return renderCode (n % 10000).toNat

/-- The output keying material of the code. -/
def pairingOkm (mac : Hkdf.Mac 32) (sharedSecret : SharedSecret) : List UInt8 :=
  Hkdf.derive mac hkdfSalt sharedSecret.bytes hkdfInfo okmLen

theorem length_pairingOkm (mac : Hkdf.Mac 32) (sharedSecret : SharedSecret) :
    (pairingOkm mac sharedSecret).length = 4 := by
  rw [pairingOkm, Hkdf.length_derive mac (by decide)]
  rfl

theorem derivePairingCode_eq_some (sharedSecret : SharedSecret) :
    crate.derivePairingCode sharedSecret =
      some (renderCode (Bytes.ofBe (pairingOkm mac sharedSecret) % 10000)) := by
  have hlt := Bytes.ofBe_lt (pairingOkm mac sharedSecret)
  rw [length_pairingOkm] at hlt
  have hword : (UInt32.ofNat (Bytes.ofBe (pairingOkm mac sharedSecret)) % 10000).toNat =
      Bytes.ofBe (pairingOkm mac sharedSecret) % 10000 := by
    have hfits : Bytes.ofBe (pairingOkm mac sharedSecret) % 2 ^ 32 =
        Bytes.ofBe (pairingOkm mac sharedSecret) := Nat.mod_eq_of_lt (by omega)
    rw [UInt32.toNat_mod, UInt32.toNat_ofNat', hfits]
    rfl
  rw [HkdfCrate.derivePairingCode, crate.expand_eq _ _ _ _ (by decide)]
  exact congrArg (some ∘ renderCode) hword

/-! ## The expansion block by block -/

theorem expandBlocks_eq (mac : Hkdf.Mac 32) (prk info : List UInt8) (done rounds : Nat) :
    Hkdf.blocks mac prk info done ++
      expandBlocks mac.hash prk info (Hkdf.block mac prk info done) (UInt8.ofNat done) rounds =
      Hkdf.blocks mac prk info (done + rounds) := by
  induction rounds generalizing done with
  | zero => simp [expandBlocks]
  | succ rounds ih =>
    have hnext := ih (done + 1)
    have hcounter : UInt8.ofNat done + 1 = UInt8.ofNat (done + 1) := (UInt8.ofNat_add done 1).symm
    rw [Hkdf.blocks_succ, List.append_assoc, Nat.add_assoc, Nat.add_comm 1] at hnext
    rw [← hnext, expandBlocks, hcounter]
    rfl

theorem hkdfSha256_eq (mac : Hkdf.Mac 32) (secret salt info : List UInt8) (len : Nat) :
    hkdfSha256 mac.hash secret salt info len = Hkdf.derive mac salt secret info len := by
  have hblocks := expandBlocks_eq mac (mac.hash salt secret) info 0 ((len + 31) / 32)
  rw [Nat.zero_add] at hblocks
  rw [hkdfSha256, Hkdf.derive, ← Hkdf.take_blocks mac _ info (by decide)
    (show len ≤ (len + 31) / 32 * 32 by omega), Hkdf.extract, ← hblocks]
  rfl

/-- The code of the crate is the one that the pairing uses. -/
theorem derivePairingCode_eq (sharedSecret : SharedSecret) :
    crate.derivePairingCode sharedSecret = some (derivePairingCode mac.hash sharedSecret) := by
  rw [derivePairingCode_eq_some, derivePairingCode, hkdfSha256_eq, pairingOkm]

end PhoneBridge.Crypto
