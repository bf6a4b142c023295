import PhoneBridge.Android.PublicKeys
import PhoneBridge.Crypto.Cert
import PhoneBridge.Crypto.PairingCode

/-!
# Keys and fingerprints on the phone

`Ecdh.kt`, `PairingCode.kt` and the fingerprint check of `PairingMachine.kt`. The curve arithmetic,
the hash and the wording of their exceptions belong to the Java platform and stay parameters; a call
that throws is an `Except` with the exception's message.
-/

namespace PhoneBridge.Android

open Library Crypto

/-- A public key whose coordinates fit in 32 bytes, as those of a generated keypair do. -/
structure EcPoint where
  x : BitVec 256
  y : BitVec 256
  deriving DecidableEq

namespace EcPoint

variable (point : EcPoint)

def key : Ecdh.ECPublicKey := ⟨⟨point.x.toNat, point.y.toNat⟩⟩

theorem uncompressedBytes_key : Ecdh.uncompressedBytes point.key =
    .ok (0x04 :: (Bytes.toBe 32 point.x.toNat ++ Bytes.toBe 32 point.y.toNat)) :=
  Ecdh.uncompressedBytes_eq_ok point.x.isLt point.y.isLt

theorem isSome_uncompressedBytes : (Ecdh.uncompressedBytes point.key).toOption.isSome = true := by
  rw [uncompressedBytes_key]
  rfl

/-- The bytes that `Ecdh.uncompressedBytes` returns. -/
def uncompressedBytes : List UInt8 :=
  (Ecdh.uncompressedBytes point.key).toOption.get point.isSome_uncompressedBytes

theorem uncompressedBytes_eq : point.uncompressedBytes =
    0x04 :: (Bytes.toBe 32 point.x.toNat ++ Bytes.toBe 32 point.y.toNat) := by
  simp [uncompressedBytes, uncompressedBytes_key, Except.toOption]

theorem toBase64_key :
    Ecdh.toBase64 point.key = .ok (Base64.encode point.uncompressedBytes) := by
  rw [uncompressedBytes_eq]
  exact Ecdh.toBase64_eq_ok point.uncompressedBytes_key

theorem isSome_toBase64 : (Ecdh.toBase64 point.key).toOption.isSome = true := by
  rw [toBase64_key]
  rfl

/-- The text that `Ecdh.toBase64` returns. -/
def toBase64 : String := (Ecdh.toBase64 point.key).toOption.get point.isSome_toBase64

theorem toBase64_eq : point.toBase64 = Base64.encode point.uncompressedBytes := by
  simp [toBase64, toBase64_key, Except.toOption]

theorem length_uncompressedBytes : point.uncompressedBytes.length = 65 := by
  simp [uncompressedBytes_eq]

/-- The desktop reads every key that the phone writes. -/
theorem fromBase64_toBase64 : ∃ key : PublicKey, PublicKey.fromBase64 point.toBase64 = .ok key := by
  rw [toBase64_eq]
  exact ⟨_, PublicKey.fromBase64_encode point.length_uncompressedBytes (by
    rw [uncompressedBytes_eq, List.head?_cons])⟩

end EcPoint

/-- An EC keypair of the Java platform. -/
structure KeyPair where
  secret : BitVec 256
  point : EcPoint

/-- The parts of the Java platform that the pairing code calls. -/
structure Jce extends Ecdh.KeyReader where
  hmacSha256 : List UInt8 → List UInt8 → List UInt8
  /-- `KeyAgreement.generateSecret`. -/
  generateSecret : BitVec 256 → Ecdh.ECPublicKey → Except String (List UInt8)

/-- A platform for examples, on which every point is on the curve. -/
def sampleJce : Jce where
  hmacSha256 := fun _ _ ↦ List.replicate 32 0
  generatePublic := fun point ↦ .ok ⟨point⟩
  generateSecret := fun _ _ ↦ .ok (List.replicate 32 0)
  base64Message := fun _ ↦ ""

/-- Compute the 32-byte ECDH shared secret. -/
def agree (jce : Jce) (secret : BitVec 256) (peerPublic : Ecdh.ECPublicKey) :
    Except String SharedSecret :=
  match jce.generateSecret secret peerPublic with
  | .error message => .error message
  | .ok bytes =>
    if h : bytes.length = 32 then .ok ⟨bytes, h⟩
    else
      let size := bytes.length
      .error s!"ECDH shared secret must be 32 bytes (got {size})"

/-- Is the character an upper-case hexadecimal digit? -/
def isUpperHex (c : Char) : Bool := ('0' ≤ c && c ≤ '9') || ('A' ≤ c && c ≤ 'F')

/-- 32 colon-separated upper-case hex pairs. -/
def isValidFingerprint (s : String) : Bool :=
  if Text.utf16Length s.toList ≠ 32 * 3 - 1 then false
  else
    let parts := s.toList.splitOn ':'
    if parts.length ≠ 32 then false
    else parts.all fun part ↦ Text.utf16Length part = 2 && part.all isUpperHex

/-! ## What the two sides agree on -/

/-- The phone hands the point of every key that the desktop writes to its platform. -/
theorem publicKeyFromBase64_toBase64 (reader : Ecdh.KeyReader) {key : PublicKey}
    (hmarker : key.bytes.head? = some 0x04) :
    Ecdh.publicKeyFromBase64 reader key.toBase64 =
      reader.generatePublic (Ecdh.pointOf key.bytes) := by
  rw [PublicKey.toBase64, Ecdh.publicKeyFromBase64_encode reader key.length_eq, if_pos hmarker]

theorem length_joined (pair : UInt8) (pairs : List UInt8) :
    ([':'].intercalate ((pair :: pairs).map hexPair)).length = 3 * pairs.length + 2 := by
  induction pairs generalizing pair with
  | nil => simp [List.intercalate]
  | cons next pairs ih =>
    have hrest := ih next
    rw [List.map_cons] at hrest ⊢
    rw [List.map_cons, List.intercalate_cons_cons, List.length_append, List.length_append, hrest]
    simp only [length_hexPair, List.length_cons, List.length_nil]
    omega

theorem length_certFingerprint (digest : Digest) :
    (certFingerprint digest).toList.length = 95 := by
  have hlength := digest.length_eq
  rw [toList_certFingerprint]
  cases hbytes : digest.bytes with
  | nil => simp [hbytes] at hlength
  | cons pair pairs =>
    rw [hbytes, List.length_cons] at hlength
    rw [length_joined]
    omega

theorem isUpperHex_of_mem_hexPair {b : UInt8} {c : Char} (h : c ∈ hexPair b) :
    isUpperHex c = true := by
  obtain ⟨n, hn, rfl⟩ := mem_hexPair h
  simpa [isUpperHex] using upper_isHexDigit hn

theorem ascii_of_mem_joined {pairs : List UInt8} {c : Char}
    (h : c ∈ [':'].intercalate (pairs.map hexPair)) : c.toNat < 128 := by
  rcases Text.mem_intercalate h with rfl | ⟨pair, hpair, hc⟩
  · decide
  · obtain ⟨b, -, rfl⟩ := List.mem_map.mp hpair
    exact ascii_of_mem_hexPair hc

/-- A fingerprint that either side writes is valid on the phone. -/
theorem isValidFingerprint_certFingerprint (digest : Digest) :
    isValidFingerprint (certFingerprint digest) = true := by
  have hlength : Text.utf16Length (certFingerprint digest).toList = 95 := by
    rw [Text.utf16Length_of_ascii fun c hc ↦ ?_, length_certFingerprint]
    rw [toList_certFingerprint] at hc
    exact ascii_of_mem_joined hc
  have hpair : ∀ b, Text.utf16Length (hexPair b) = 2 := fun b ↦ by
    rw [Text.utf16Length_of_ascii fun c hc ↦ ascii_of_mem_hexPair hc, length_hexPair]
  have hhex : ∀ b, ∀ c ∈ hexPair b, isUpperHex c = true := fun b c ↦ isUpperHex_of_mem_hexPair
  simp [isValidFingerprint, hlength, splitOn_certFingerprint, digest.length_eq, hpair]
  exact fun b _ ↦ hhex b

theorem upper_of_isUpperHex {c : Char} (h : isUpperHex c = true) : ∃ n < 16, c = Hex.upper n := by
  have hrange : 48 ≤ c.toNat ∧ c.toNat ≤ 57 ∨ 65 ≤ c.toNat ∧ c.toNat ≤ 70 := by
    simp only [isUpperHex, Bool.or_eq_true, Bool.and_eq_true, decide_eq_true_eq] at h
    exact h
  rcases hrange with ⟨hlow, hhigh⟩ | ⟨hlow, hhigh⟩
  · refine ⟨c.toNat - 48, by omega, ?_⟩
    rw [Hex.upper, if_pos (by omega), Nat.add_sub_cancel' hlow, Char.ofNat_toNat]
  · refine ⟨c.toNat - 55, by omega, ?_⟩
    rw [Hex.upper, if_neg (by omega), Nat.add_sub_cancel' (by omega), Char.ofNat_toNat]

/-- A pair that the phone accepts is read by the desktop. -/
theorem parsePair_of_isUpperHex {part : List Char} (index : Nat)
    (hlength : Text.utf16Length part = 2) (hhex : ∀ c ∈ part, isUpperHex c = true) :
    ∃ byte, parsePair (part, index) = .ok byte := by
  have hascii : ∀ c ∈ part, c.toNat < 128 := fun c hc ↦ by
    obtain ⟨n, hn, rfl⟩ := upper_of_isUpperHex (hhex c hc)
    interval_cases n <;> decide
  rw [Text.utf16Length_of_ascii hascii] at hlength
  obtain ⟨a, b, rfl⟩ := List.length_eq_two.mp hlength
  obtain ⟨m, hm, rfl⟩ := upper_of_isUpperHex (hhex a (by simp))
  obtain ⟨n, hn, rfl⟩ := upper_of_isUpperHex (hhex b (by simp))
  exact ⟨_, parsePair_digits index (Hex.value_upper hm) (Hex.value_upper hn)⟩

/-- A fingerprint that the phone accepts is accepted by the desktop. -/
theorem parses_of_isValidFingerprint {s : String} (h : isValidFingerprint s = true) :
    ∃ bytes, parseFingerprint s = .ok bytes := by
  simp only [isValidFingerprint] at h
  split at h
  · cases h
  split at h
  · cases h
  next hcount =>
    simp only [ne_eq, Decidable.not_not] at hcount
    rw [parseFingerprint, if_neg (by simp [hcount])]
    refine mapM_ok fun pair hpair ↦ ?_
    have hpart := List.all_eq_true.mp h pair.1 (List.fst_mem_of_mem_zipIdx hpair)
    simp only [Bool.and_eq_true, decide_eq_true_eq, List.all_eq_true] at hpart
    exact parsePair_of_isUpperHex pair.2 hpart.1 hpart.2

end PhoneBridge.Android
