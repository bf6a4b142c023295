import PhoneBridge.Android.Ecdh
import PhoneBridge.Crypto.Fingerprint

/-!
# The forms of a fingerprint

Fingerprints are written in one form and compared as strings. The phone accepts that form only. The
desktop reads each pair as a number in base 16, so it also accepts digits of the lower case and a
plus sign in place of the first digit, and what it accepts then is not what it would write.
-/

namespace PhoneBridge.Interop

open Library Crypto Android

/-- A hexadecimal digit of either case. -/
def IsHexDigit (c : Char) : Prop :=
  ('0' ≤ c ∧ c ≤ '9') ∨ ('a' ≤ c ∧ c ≤ 'f') ∨ ('A' ≤ c ∧ c ≤ 'F')

/-- Two digits, or a plus sign and a digit. -/
def IsHexPair (pair : List Char) : Prop :=
  ∃ first second, pair = [first, second] ∧ (first = '+' ∨ IsHexDigit first) ∧ IsHexDigit second

/-- 32 pairs with colons between them. -/
structure IsHexPairs (s : String) : Prop where
  count : (s.toList.splitOn ':').length = 32
  pairs : ∀ pair ∈ s.toList.splitOn ':', IsHexPair pair

/-- Only colons and digits of the upper case. -/
def IsUpperCase (s : String) : Prop := ∀ c ∈ s.toList, c = ':' ∨ isUpperHex c = true

/-- What the desktop accepts is what it would write and what the phone accepts. -/
structure OneForm (s : String) : Prop where
  written_back : ∀ bytes, parseFingerprint s = .ok bytes →
    ∃ digest : Digest, digest.bytes = bytes ∧ certFingerprint digest = s
  accepted_alike : (∃ bytes, parseFingerprint s = .ok bytes) ↔ isValidFingerprint s = true

/-! ## Pairs -/

section Pairs

variable {c first second : Char} {pair : List Char} {index : Nat} {b : UInt8}

theorem isHexDigit_iff : IsHexDigit c ↔ (Hex.value c).isSome = true := by
  unfold Hex.value
  split_ifs with hdecimal hlower hupper
  · simp [IsHexDigit, hdecimal]
  · simp [IsHexDigit, hlower]
  · simp [IsHexDigit, hupper]
  · simp [IsHexDigit, hdecimal, hlower, hupper]

/-- What is read as a byte has digits only, apart from a plus sign before them. -/
theorem digits_of_u8FromHex {cs : List Char} (h : u8FromHex cs = some b) :
    (∃ digits, cs = '+' :: digits ∧ digits ≠ [] ∧ ∀ c ∈ digits, IsHexDigit c) ∨
      ∀ c ∈ cs, IsHexDigit c := by
  rw [u8FromHex] at h
  split_ifs at h with hsign hempty hempty
  · cases h
  · left
    obtain ⟨rest, rfl⟩ := List.head?_eq_some_iff.mp hsign.2
    obtain ⟨n, hn, -⟩ := Option.bind_eq_some_iff.mp h
    exact ⟨rest, rfl, hempty, fun c hc ↦
      isHexDigit_iff.mpr (Hex.isSome_value_of_number hn c hc)⟩
  · cases h
  · right
    obtain ⟨n, hn, -⟩ := Option.bind_eq_some_iff.mp h
    exact fun c hc ↦ isHexDigit_iff.mpr (Hex.isSome_value_of_number hn c hc)

theorem ascii_of_isHexDigit (h : IsHexDigit c) : c.toNat < 128 :=
  Hex.ascii_of_value (isHexDigit_iff.mp h)

theorem isHexPair_of_parsePair (h : parsePair (pair, index) = .ok b) : IsHexPair pair := by
  unfold parsePair at h
  split_ifs at h with hlength
  rw [not_not] at hlength
  split at h
  · next hread =>
    rcases digits_of_u8FromHex hread with ⟨digits, rfl, hne, hdigits⟩ | hdigits
    · have hascii : ∀ c ∈ '+' :: digits, c.toNat < 128 :=
        List.forall_mem_cons.mpr ⟨by decide, fun c hc ↦ ascii_of_isHexDigit (hdigits c hc)⟩
      rw [Text.utf8Length_of_ascii hascii] at hlength
      obtain ⟨second, rfl⟩ := List.length_eq_one_iff.mp (Nat.succ.inj hlength)
      exact ⟨'+', second, rfl, .inl rfl, hdigits second (by simp)⟩
    · rw [Text.utf8Length_of_ascii fun c hc ↦ ascii_of_isHexDigit (hdigits c hc)] at hlength
      obtain ⟨first, second, rfl⟩ := List.length_eq_two.mp hlength
      exact ⟨first, second, rfl, .inr (hdigits first (by simp)), hdigits second (by simp)⟩
  · cases h

theorem parsePair_of_isHexPair (h : IsHexPair pair) : ∃ b, parsePair (pair, index) = .ok b := by
  obtain ⟨first, second, rfl, hfirst, hsecond⟩ := h
  obtain ⟨n, hn⟩ := Option.isSome_iff_exists.mp (isHexDigit_iff.mp hsecond)
  rcases hfirst with rfl | hfirst
  · have hlength : Text.utf8Length ['+', second] = 2 := by
      apply Text.utf8Length_of_ascii
      intro c hc
      rcases List.mem_pair.mp hc with rfl | rfl
      · decide
      · exact ascii_of_isHexDigit hsecond
    have hlt := Hex.value_lt hn
    have hbyte : n < 256 := by omega
    exact ⟨UInt8.ofNat n, by simp [parsePair, hlength, u8FromHex, Hex.number, hn, hbyte]⟩
  · obtain ⟨m, hm⟩ := Option.isSome_iff_exists.mp (isHexDigit_iff.mp hfirst)
    exact ⟨_, parsePair_digits index hm hn⟩

/-- A pair in the upper case is what its byte is written as. -/
theorem hexPair_of_parsePair (h : parsePair (pair, index) = .ok b)
    (hupper : ∀ c ∈ pair, isUpperHex c = true) : hexPair b = pair := by
  obtain ⟨first, second, rfl, -, -⟩ := isHexPair_of_parsePair h
  obtain ⟨m, hm, rfl⟩ := upper_of_isUpperHex (hupper first (by simp))
  obtain ⟨n, hn, rfl⟩ := upper_of_isUpperHex (hupper second (by simp))
  rw [parsePair_digits index (Hex.value_upper hm) (Hex.value_upper hn)] at h
  obtain rfl := Except.ok.inj h
  have htoNat : (UInt8.ofNat (m * 16 + n)).toNat = m * 16 + n := by
    rw [UInt8.toNat_ofNat', Nat.mod_eq_of_lt (by omega)]
  have hhigh : (m * 16 + n) / 16 % 16 = m := by omega
  have hlow : (m * 16 + n) % 16 = n := by omega
  rw [hexPair, htoNat, Hex.digits, Hex.digits, Hex.digits, hhigh, hlow]
  rfl

end Pairs

/-! ## Whole fingerprints -/

section Fingerprints

variable {s : String} {bytes : List UInt8}

theorem parseFingerprint_eq_ok : parseFingerprint s = .ok bytes ↔
    (s.toList.splitOn ':').length = 32 ∧
      List.Forall₂ (fun pair b ↦ parsePair pair = .ok b) (s.toList.splitOn ':').zipIdx bytes := by
  rw [parseFingerprint]
  split_ifs with hcount
  · simp [hcount]
  · rw [not_not] at hcount
    simp [hcount, mapM_eq_ok_iff]

/-- What the bytes that are read say about the pairs. -/
theorem pairs_of_forall₂ {pairs : List (List Char)} {index : Nat}
    (h : List.Forall₂ (fun pair b ↦ parsePair pair = .ok b) (pairs.zipIdx index) bytes) :
    (∀ pair ∈ pairs, IsHexPair pair) ∧
      ((∀ pair ∈ pairs, ∀ c ∈ pair, isUpperHex c = true) → bytes.map hexPair = pairs) := by
  induction pairs generalizing index bytes with
  | nil =>
    cases h
    simp
  | cons pair pairs ih =>
    rw [List.zipIdx_cons] at h
    cases h with
    | cons hpair hpairs =>
      obtain ⟨hforms, hback⟩ := ih hpairs
      refine ⟨List.forall_mem_cons.mpr ⟨isHexPair_of_parsePair hpair, hforms⟩, fun hupper ↦ ?_⟩
      obtain ⟨hfirst, hrest⟩ := List.forall_mem_cons.mp hupper
      rw [List.map_cons, hexPair_of_parsePair hpair hfirst, hback hrest]

/-- The desktop accepts just the texts of 32 pairs. -/
theorem accepts_iff_isHexPairs : (∃ bytes, parseFingerprint s = .ok bytes) ↔ IsHexPairs s := by
  constructor
  · rintro ⟨bytes, h⟩
    obtain ⟨hcount, hpairs⟩ := parseFingerprint_eq_ok.mp h
    exact ⟨hcount, (pairs_of_forall₂ hpairs).1⟩
  · intro h
    rw [parseFingerprint, if_neg (by simp [h.count])]
    exact mapM_ok fun pair hpair ↦
      parsePair_of_isHexPair (h.pairs pair.1 (List.fst_mem_of_mem_zipIdx hpair))

theorem IsHexPair.ne_colon {pair : List Char} (h : IsHexPair pair) : ∀ c ∈ pair, c ≠ ':' := by
  have hcolon : ¬ IsHexDigit ':' := by
    rw [isHexDigit_iff]
    decide
  obtain ⟨first, second, rfl, hfirst, hsecond⟩ := h
  rintro c hc rfl
  rcases List.mem_pair.mp hc with rfl | rfl
  · rcases hfirst with hplus | hdigit
    · exact absurd hplus (by decide)
    · exact hcolon hdigit
  · exact hcolon hsecond

/-- What is read from the upper case is written as the same text. -/
theorem certFingerprint_of_upper (h : parseFingerprint s = .ok bytes) (hupper : IsUpperCase s) :
    ∃ digest : Digest, digest.bytes = bytes ∧ certFingerprint digest = s := by
  obtain ⟨hcount, hpairs⟩ := parseFingerprint_eq_ok.mp h
  obtain ⟨hforms, hback⟩ := pairs_of_forall₂ hpairs
  have hdigits : ∀ pair ∈ s.toList.splitOn ':', ∀ c ∈ pair, isUpperHex c = true := by
    intro pair hpair c hc
    have hjoined : [':'].intercalate (s.toList.splitOn ':') = s.toList :=
      List.intercalate_splitOn ':'
    have hmem : c ∈ s.toList := hjoined ▸ Text.mem_intercalate_of_mem hpair hc
    exact (hupper c hmem).resolve_left ((hforms pair hpair).ne_colon c hc)
  have hwritten := hback hdigits
  have hlength : bytes.length = 32 := by
    rw [← hcount, ← hwritten, List.length_map]
  refine ⟨⟨bytes, hlength⟩, rfl, ?_⟩
  rw [certFingerprint, hwritten, List.intercalate_splitOn, String.ofList_toList]

theorem isUpperCase_certFingerprint (digest : Digest) : IsUpperCase (certFingerprint digest) := by
  intro c hc
  rw [toList_certFingerprint] at hc
  rcases Text.mem_intercalate hc with hcolon | ⟨pair, hpair, hc⟩
  · exact .inl hcolon
  · obtain ⟨b, -, rfl⟩ := List.mem_map.mp hpair
    exact .inr (isUpperHex_of_mem_hexPair hc)

/-- A text has one form exactly when it is not 32 pairs with other characters than upper-case
digits. -/
theorem oneForm_iff : OneForm s ↔ (IsHexPairs s → IsUpperCase s) := by
  constructor
  · intro h hpairs
    obtain ⟨bytes, hread⟩ := accepts_iff_isHexPairs.mpr hpairs
    obtain ⟨digest, -, rfl⟩ := h.written_back bytes hread
    exact isUpperCase_certFingerprint digest
  · intro h
    have hback : ∀ bytes, parseFingerprint s = .ok bytes →
        ∃ digest : Digest, digest.bytes = bytes ∧ certFingerprint digest = s :=
      fun bytes hread ↦ certFingerprint_of_upper hread (h (accepts_iff_isHexPairs.mp ⟨bytes, hread⟩))
    refine ⟨hback, ?_, parses_of_isValidFingerprint⟩
    rintro ⟨bytes, hread⟩
    obtain ⟨digest, -, rfl⟩ := hback bytes hread
    exact isValidFingerprint_certFingerprint digest

end Fingerprints

/-- Fingerprints that are written are read back, and a text has one form unless it is 32 pairs with
other characters than upper-case digits. -/
theorem fingerprint_forms_iff (digest : Digest) (s : String) :
    parseFingerprint (certFingerprint digest) = .ok digest.bytes ∧
      (OneForm s ↔ (IsHexPairs s → IsUpperCase s)) :=
  ⟨parseFingerprint_certFingerprint digest, oneForm_iff⟩

/-- A fingerprint of zeros but for the first character. -/
def zeros (first : Char) : String :=
  String.ofList ([':'].intercalate ([first, '0'] :: List.replicate 31 ['0', '0']))

theorem not_oneForm_zeros {first : Char} (h : first = '+' ∨ IsHexDigit first)
    (hlower : first ≠ ':' ∧ isUpperHex first = false) : ¬ OneForm (zeros first) := by
  have hsplit : (zeros first).toList.splitOn ':' = [first, '0'] :: List.replicate 31 ['0', '0'] := by
    rw [zeros, String.toList_ofList]
    refine List.splitOn_intercalate ':' ?_ (List.cons_ne_nil _ _)
    rw [List.forall_mem_cons]
    refine ⟨by simpa using hlower.1.symm, fun pair hpair ↦ ?_⟩
    rw [List.eq_of_mem_replicate hpair]
    decide
  have hzero : IsHexDigit '0' := .inl (by decide)
  rw [oneForm_iff, Classical.not_imp]
  constructor
  · refine ⟨by rw [hsplit]; rfl, ?_⟩
    rw [hsplit, List.forall_mem_cons]
    refine ⟨⟨first, '0', rfl, h, hzero⟩, fun pair hpair ↦ ?_⟩
    rw [List.eq_of_mem_replicate hpair]
    exact ⟨'0', '0', rfl, .inr hzero, hzero⟩
  · intro hupper
    have hmem : first ∈ (zeros first).toList := by
      rw [zeros, String.toList_ofList]
      exact Text.mem_intercalate_of_mem List.mem_cons_self List.mem_cons_self
    rcases hupper first hmem with hcolon | hdigit
    · exact hlower.1 hcolon
    · rw [hlower.2] at hdigit
      cases hdigit

/-- A digit of the lower case and a plus sign are accepted. -/
theorem lower_case_and_plus_accepted : ¬ OneForm (zeros 'a') ∧ ¬ OneForm (zeros '+') :=
  ⟨not_oneForm_zeros (.inr (.inr (.inl (by decide)))) (by decide),
    not_oneForm_zeros (.inl rfl) (by decide)⟩

end PhoneBridge.Interop
