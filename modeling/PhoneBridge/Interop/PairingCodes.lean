import PhoneBridge.Android.Hkdf
import PhoneBridge.Crypto.CodeDerivation

/-!
# One code on both sides

The loop on the phone and the crate on the desktop derive the same bytes, and the two conversions
turn them into the same four digits.
-/

namespace PhoneBridge.Interop

open Library Crypto

theorem bytes_hkdfSalt : Utf8.bytes Android.PairingCodeSpec.hkdfSalt.toList = hkdfSalt := by
  decide +kernel

theorem bytes_hkdfInfo : Utf8.bytes Android.PairingCodeSpec.hkdfInfo.toList = hkdfInfo := by
  decide +kernel

/-- The number that the digits of a code denote. -/
theorem ofDigitChars_renderCode (n : Nat) :
    Nat.ofDigitChars 10 (renderCode n).toList 0 = n := by
  rw [renderCode, String.toList_ofList, List.leftpad, Nat.ofDigitChars_append,
    Nat.ofDigitChars_replicate_zero, Nat.mul_zero, Nat.ofDigitChars_toDigits] <;> decide

/-- The phone shows the code that the desktop derives. -/
theorem derive_eq_ok (mac : Hkdf.Mac 32) (sharedSecret : SharedSecret) :
    Android.PairingCode.derive mac sharedSecret.bytes =
      .ok (renderCode (Bytes.ofBe (pairingOkm mac sharedSecret) % 10000)) := by
  obtain ⟨a, b, c, d, hbytes⟩ := List.length_eq_four.mp (length_pairingOkm mac sharedSecret)
  have hokm : Android.Hkdf.hkdfSha256 mac sharedSecret.bytes
      (Utf8.bytes Android.PairingCodeSpec.hkdfSalt.toList)
      (Utf8.bytes Android.PairingCodeSpec.hkdfInfo.toList) Android.PairingCodeSpec.okmLen =
        .ok [a, b, c, d] := by
    rw [bytes_hkdfSalt, bytes_hkdfInfo, ← hbytes]
    exact Android.Hkdf.hkdfSha256_eq_ok mac _ _ _ _ (by decide) (by decide) (by decide)
  rw [hbytes, Android.derive_of_okm sharedSecret.length_eq hokm, Android.toInt_code,
    Android.padStart_toString]

/-- The loop on the phone derives what the standard defines, and both sides derive the same code of
every shared secret: the four digits of its first 32 bits modulo ten thousand. -/
theorem pairing_codes_agree (mac : Hkdf.Mac 32) (crate : HkdfCrate mac) :
    (∀ (secret salt info : List UInt8) (len : Int), salt ≠ [] → 1 ≤ len → len ≤ 8160 →
      Android.Hkdf.hkdfSha256 mac secret salt info len =
        .ok (Hkdf.derive mac salt secret info len.toNat)) ∧
    ∀ sharedSecret : SharedSecret, ∃ code,
      Android.PairingCode.derive mac sharedSecret.bytes = .ok code ∧
      crate.derivePairingCode sharedSecret = some code ∧ IsFourDigits code ∧
      Nat.ofDigitChars 10 code.toList 0 =
        Bytes.ofBe (Hkdf.derive mac hkdfSalt sharedSecret.bytes hkdfInfo 4) % 10000 := by
  constructor
  · intro secret salt info len hsalt hlow hhigh
    exact Android.Hkdf.hkdfSha256_eq_ok mac secret salt info len hsalt hlow hhigh
  · intro sharedSecret
    have hlt : Bytes.ofBe (pairingOkm mac sharedSecret) % 10000 < 10000 :=
      Nat.mod_lt _ (by decide)
    exact ⟨_, derive_eq_ok mac sharedSecret, derivePairingCode_eq_some crate sharedSecret,
      isFourDigits_renderCode hlt, ofDigitChars_renderCode _⟩

/-- A hash for examples. -/
def sampleMac : Hkdf.Mac 32 where
  hash key message := List.replicate 32 (UInt8.ofNat (key.length + message.length))
  length_hash _ _ := List.length_replicate

/-- A shared secret for examples. -/
def sampleSecret : SharedSecret where
  bytes := List.replicate 32 7
  length_eq := rfl

theorem pairing_codes_agree_sample :
    Android.Hkdf.hkdfSha256 sampleMac [1] [2] [3] 42 =
        .ok (List.replicate 32 34 ++ List.replicate 10 66) ∧
      ∃ code, Android.PairingCode.derive sampleMac sampleSecret.bytes = .ok code ∧
        (HkdfCrate.standard sampleMac).derivePairingCode sampleSecret = some code ∧
        IsFourDigits code ∧ Nat.ofDigitChars 10 code.toList 0 = 6468 := by
  have h := pairing_codes_agree sampleMac (.standard sampleMac)
  have hokm : Hkdf.derive sampleMac [2] [1] [3] 42 =
      List.replicate 32 34 ++ List.replicate 10 66 := by decide
  have hnumber : Bytes.ofBe (Hkdf.derive sampleMac hkdfSalt sampleSecret.bytes hkdfInfo 4) % 10000 =
      6468 := by decide +kernel
  constructor
  · rw [← hokm]
    exact h.1 [1] [2] [3] 42 (by decide) (by decide) (by decide)
  · rw [← hnumber]
    exact h.2 sampleSecret

end PhoneBridge.Interop
