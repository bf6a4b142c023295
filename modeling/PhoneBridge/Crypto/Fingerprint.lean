import PhoneBridge.Library.Hex
import PhoneBridge.Library.Text
import Mathlib.Data.List.Basic

/-!
# Certificate fingerprints

The fingerprint of a certificate is the SHA-256 digest of its DER form, written as 32
colon-separated upper-case hex pairs. The digest itself is computed by the cryptographic library.
-/

namespace PhoneBridge.Crypto

open Library

/-- The 32 bytes of a SHA-256 digest. -/
structure Digest where
  bytes : List UInt8
  length_eq : bytes.length = 32

/-- The two upper-case digits of a byte. -/
def hexPair (b : UInt8) : List Char := Hex.digits Hex.upper b.toNat 2

/-- The fingerprint that a digest is written as. -/
def certFingerprint (digest : Digest) : String :=
  String.ofList ([':'].intercalate (digest.bytes.map hexPair))

/-- Errors from fingerprint parsing. -/
inductive FingerprintError
  | pairCount (count : Nat)
  | pairLength (index length : Nat)
  | pairHex (index : Nat)
  deriving DecidableEq, Repr

def FingerprintError.message : FingerprintError → String
  | .pairCount count => s!"fingerprint must have 32 pairs, got {count}"
  | .pairLength index length => s!"pair {index} has length {length}, expected 2"
  | .pairHex index => s!"pair {index} is not valid hex"

/-- A byte in base 16; a leading plus sign is accepted. -/
def u8FromHex (cs : List Char) : Option UInt8 := do
  let digits := if 1 < cs.length ∧ cs.head? = some '+' then cs.tail else cs
  let n ← if digits = [] then none else Hex.number digits
  if n < 256 then some (UInt8.ofNat n) else none

/-- One pair of a fingerprint with its position. -/
def parsePair (pair : List Char × Nat) : Except FingerprintError UInt8 :=
  if Text.utf8Length pair.1 ≠ 2 then .error (.pairLength pair.2 (Text.utf8Length pair.1))
  else
    match u8FromHex pair.1 with
    | some b => .ok b
    | none => .error (.pairHex pair.2)

/-- Parse a colon-separated hex fingerprint and return the 32 raw bytes. -/
def parseFingerprint (s : String) : Except FingerprintError (List UInt8) :=
  let parts := s.toList.splitOn ':'
  if parts.length ≠ 32 then .error (.pairCount parts.length) else parts.zipIdx.mapM parsePair

/-- Two digits of either case are read. -/
theorem parsePair_digits {first second : Char} {m n : Nat} (index : Nat)
    (hfirst : Hex.value first = some m) (hsecond : Hex.value second = some n) :
    parsePair ([first, second], index) = .ok (UInt8.ofNat (m * 16 + n)) := by
  have hascii : ∀ c ∈ [first, second], c.toNat < 128 := by
    intro c hc
    rcases List.mem_pair.mp hc with rfl | rfl
    · exact Hex.ascii_of_value (by simp [hfirst])
    · exact Hex.ascii_of_value (by simp [hsecond])
  have hlength : Text.utf8Length [first, second] = 2 := Text.utf8Length_of_ascii hascii
  have hsign : first ≠ '+' := by
    rintro rfl
    have hnone : Hex.value '+' = none := by decide
    rw [hnone] at hfirst
    cases hfirst
  have hnumber : Hex.number [first, second] = some (m * 16 + n) := by
    simp [Hex.number, hfirst, hsecond]
  have hm := Hex.value_lt hfirst
  have hn := Hex.value_lt hsecond
  have hbyte : m * 16 + n < 256 := by omega
  simp [parsePair, hlength, u8FromHex, hsign, hnumber, hbyte]

/-! ## What is written is read back -/

theorem mem_hexPair {b : UInt8} {c : Char} (h : c ∈ hexPair b) : ∃ n < 16, c = Hex.upper n := by
  simp only [hexPair, Hex.digits, List.nil_append, List.cons_append, List.mem_cons,
    List.not_mem_nil, or_false] at h
  rcases h with rfl | rfl
  · exact ⟨_, Nat.mod_lt _ (by omega), rfl⟩
  · exact ⟨_, Nat.mod_lt _ (by omega), rfl⟩

theorem upper_isHexDigit {n : Nat} (h : n < 16) :
    ('0' ≤ Hex.upper n ∧ Hex.upper n ≤ '9') ∨ ('A' ≤ Hex.upper n ∧ Hex.upper n ≤ 'F') := by
  interval_cases n <;> decide

theorem colon_notMem_hexPair (b : UInt8) : ':' ∉ hexPair b := by
  intro h
  obtain ⟨n, hn, hc⟩ := mem_hexPair h
  have hdigit := upper_isHexDigit hn
  rw [← hc] at hdigit
  revert hdigit
  decide

theorem ascii_of_mem_hexPair {b : UInt8} {c : Char} (h : c ∈ hexPair b) : c.toNat < 128 := by
  obtain ⟨n, hn, rfl⟩ := mem_hexPair h
  interval_cases n <;> decide

@[simp]
theorem length_hexPair (b : UInt8) : (hexPair b).length = 2 := Hex.length_digits _ _ _

theorem toList_certFingerprint (digest : Digest) :
    (certFingerprint digest).toList = [':'].intercalate (digest.bytes.map hexPair) := by
  simp [certFingerprint]

/-- The written fingerprint splits into the pairs of its bytes. -/
theorem splitOn_certFingerprint (digest : Digest) :
    (certFingerprint digest).toList.splitOn ':' = digest.bytes.map hexPair := by
  rw [toList_certFingerprint]
  refine List.splitOn_intercalate ':' (fun pair hpair ↦ ?_) fun hnil ↦ ?_
  · obtain ⟨b, -, rfl⟩ := List.mem_map.mp hpair
    exact colon_notMem_hexPair b
  · have hlength := digest.length_eq
    rw [List.map_eq_nil_iff.mp hnil] at hlength
    simp at hlength

theorem u8FromHex_hexPair (b : UInt8) : u8FromHex (hexPair b) = some b := by
  have hlt := b.toNat_lt
  have hnumber : Hex.number (hexPair b) = some b.toNat :=
    Hex.number_digits (fun _ ↦ Hex.value_upper) (by omega)
  have hsign : (hexPair b).head? ≠ some '+' := by
    intro hhead
    obtain ⟨n, hn, hc⟩ := mem_hexPair (List.mem_of_mem_head? hhead)
    have hdigit := upper_isHexDigit hn
    rw [← hc] at hdigit
    revert hdigit
    decide
  have hne : hexPair b ≠ [] := List.ne_nil_of_length_eq_add_one (length_hexPair b)
  simp [u8FromHex, hsign, hne, hnumber, hlt]

theorem parsePair_hexPair (b : UInt8) (index : Nat) : parsePair (hexPair b, index) = .ok b := by
  have hlength : Text.utf8Length (hexPair b) = 2 := by
    rw [Text.utf8Length_of_ascii fun c hc ↦ ascii_of_mem_hexPair hc, length_hexPair]
  simp [parsePair, hlength, u8FromHex_hexPair]

theorem mapM_parsePair (bs : List UInt8) (index : Nat) :
    ((bs.map hexPair).zipIdx index).mapM parsePair = .ok bs := by
  induction bs generalizing index with
  | nil => rfl
  | cons b bs ih => simp [List.zipIdx_cons, parsePair_hexPair, ih, bind, Except.bind, pure,
      Except.pure]

/-- A written fingerprint is read back. -/
theorem parseFingerprint_certFingerprint (digest : Digest) :
    parseFingerprint (certFingerprint digest) = .ok digest.bytes := by
  simp [parseFingerprint, splitOn_certFingerprint, digest.length_eq, mapM_parsePair]

end PhoneBridge.Crypto
