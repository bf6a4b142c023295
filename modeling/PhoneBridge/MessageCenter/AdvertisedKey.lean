import PhoneBridge.Crypto.Certificate
import PhoneBridge.Crypto.PemReaders
import PhoneBridge.MessageCenter.Identity
import Mathlib.Order.Nat

/-!
# The advertised public key

`pubkey_from_pem` takes the first 65 bytes after a mark, a byte 4 with a byte other than zero behind
it, for the key of the certificate. The identifier of the signature algorithm comes before the key
and has such a mark in it, so what a center announces is not the key of its certificate.
-/

namespace PhoneBridge.MessageCenter

open Library Crypto

/-! ## What the scan finds -/

/-- Does a point seem to begin here? -/
def IsMark (der : List UInt8) (i : Nat) : Prop := der[i]? = some 4 ∧ ∃ b ∈ der[i + 1]?, b ≠ 0

instance (der : List UInt8) (i : Nat) : Decidable (IsMark der i) :=
  inferInstanceAs (Decidable (_ ∧ _))

/-- A place that seems to be that of a point, with none before it. -/
def IsFirstMark (der : List UInt8) (i : Nat) : Prop := IsMark der i ∧ ∀ j < i, ¬ IsMark der j

instance (der : List UInt8) (i : Nat) : Decidable (IsFirstMark der i) :=
  inferInstanceAs (Decidable (_ ∧ _))

section Scan

variable {der : List UInt8} {i : Nat} {first : UInt8}

theorem isMark_zero {second : UInt8} : IsMark (first :: second :: der) 0 ↔
    first = 4 ∧ second ≠ 0 := by
  simp [IsMark]

theorem isMark_succ : IsMark (first :: der) (i + 1) ↔ IsMark der i := by
  simp [IsMark]

theorem isFirstMark_succ (h : ¬ IsMark (first :: der) 0) :
    IsFirstMark (first :: der) (i + 1) ↔ IsFirstMark der i := by
  rw [IsFirstMark, IsFirstMark, isMark_succ, Nat.forall_lt_succ_left]
  simp [h, isMark_succ]

/-- A mark is followed by another byte. -/
theorem IsMark.lt (h : IsMark der i) : i + 1 < der.length := by
  obtain ⟨-, b, hb, -⟩ := h
  exact (List.getElem?_eq_some_iff.mp hb).1

theorem exists_isFirstMark (h : IsMark der i) : ∃ j ≤ i, IsFirstMark der j :=
  ⟨Nat.find ⟨i, h⟩, Nat.find_min' _ h, Nat.find_spec _, fun _ ↦ Nat.find_min ⟨i, h⟩⟩

/-- A scan with 65 bytes left and more looks for a mark. -/
theorem findPoint_cons {second : UInt8} {rest : List UInt8} (hlong : 63 < rest.length) :
    findPoint (first :: second :: rest) =
      if IsMark (first :: second :: rest) 0 then some (first :: second :: rest.take 63)
      else findPoint (second :: rest) := by
  simp only [findPoint, if_pos hlong, isMark_zero]
  by_cases hmark : first = 4 ∧ second ≠ 0
  · simp [hmark]
  · rw [if_neg hmark, if_neg fun h ↦ hmark ⟨h.1, h.2.1⟩]

theorem findPoint_of_short (h : der.length ≤ 65) : findPoint der = none := by
  match der, h with
  | [], _ => rfl
  | [_], _ => rfl
  | first :: second :: rest, h =>
    simp only [List.length_cons] at h
    rw [findPoint, if_neg (by omega)]

theorem isFirstMark_unique {j : Nat} (hi : IsFirstMark der i) (hj : IsFirstMark der j) : i = j := by
  by_contra hne
  rcases Nat.lt_or_gt_of_ne hne with hlt | hlt
  · exact hj.2 i hlt hi.1
  · exact hi.2 j hlt hj.1

/-- The scan returns the 65 bytes at the first mark, when at least one more byte follows them. -/
theorem findPoint_eq_some {found : List UInt8} : findPoint der = some found ↔
    ∃ i, i + 65 < der.length ∧ IsFirstMark der i ∧ (der.drop i).take 65 = found := by
  induction der with
  | nil => simp [findPoint]
  | cons first rest ih =>
    rcases rest with - | ⟨second, rest⟩
    · simp [findPoint]
    by_cases hlong : 63 < rest.length
    · have hlength : 65 < (first :: second :: rest).length := by
        simp only [List.length_cons]
        omega
      rw [findPoint_cons hlong]
      split_ifs with hmark
      · constructor
        · intro h
          exact ⟨0, by omega, ⟨hmark, by simp⟩, by simpa using Option.some.inj h⟩
        · rintro ⟨i, -, ⟨-, hfirst⟩, hfound⟩
          obtain rfl : i = 0 := by
            by_contra hne
            exact hfirst 0 (by omega) hmark
          simpa using congrArg some hfound
      · rw [ih]
        constructor
        · rintro ⟨i, hrest, hfirst, hfound⟩
          rw [List.length_cons]
          exact ⟨i + 1, by omega, (isFirstMark_succ hmark).mpr hfirst, hfound⟩
        · rintro ⟨i, hlength, hfirst, hfound⟩
          obtain _ | i := i
          · exact absurd hfirst.1 hmark
          · rw [List.length_cons] at hlength
            exact ⟨i, by omega, (isFirstMark_succ hmark).mp hfirst, hfound⟩
    · have hlength : (first :: second :: rest).length ≤ 65 := by
        simp only [List.length_cons]
        omega
      rw [findPoint_of_short hlength]
      constructor
      · rintro ⟨⟩
      · rintro ⟨i, hi, -⟩
        omega

end Scan

/-! ## What a center announces -/

/-- The scan comes to the key of the certificate first: the key begins with a mark, and the first
mark before it, if there is one, has the same bytes behind it. -/
structure KeyComesFirst (certificate : Certificate) : Prop where
  leading : certificate.point.x.head? ≠ some 0
  earlier : ∀ i < certificate.beforePoint.length, IsFirstMark certificate.toDer i →
    (certificate.toDer.drop i).take 65 = certificate.point.bytes

section Announced

variable (certificate : Certificate)

theorem point_at : (certificate.toDer.drop certificate.beforePoint.length).take 65 =
    certificate.point.bytes := by
  rw [certificate.toDer_eq, List.drop_left, List.take_left' certificate.point.length_bytes]

theorem point_lt : certificate.beforePoint.length + 65 < certificate.toDer.length := by
  have hpos := List.length_pos_of_ne_nil certificate.afterPoint_ne_nil
  have hpoint := certificate.point.length_bytes
  rw [certificate.toDer_eq, List.length_append, List.length_append]
  omega

theorem toDer_ne_nil : certificate.toDer ≠ [] := by
  rw [certificate.toDer_eq]
  simp [EcPoint.bytes]

/-- The point begins with a mark unless its first coordinate begins with a zero. -/
theorem isMark_point : IsMark certificate.toDer certificate.beforePoint.length ↔
    certificate.point.x.head? ≠ some 0 := by
  have hat : certificate.toDer[certificate.beforePoint.length]? = some 4 := by
    rw [certificate.toDer_eq, List.getElem?_append_right le_rfl, Nat.sub_self]
    rfl
  have hnext : certificate.toDer[certificate.beforePoint.length + 1]? =
      certificate.point.x.head? := by
    rw [certificate.toDer_eq, List.getElem?_append_right (Nat.le_add_right _ _),
      Nat.add_sub_cancel_left, List.getElem?_append_left (by simp), EcPoint.getElem?_bytes_one]
  obtain ⟨b, hb⟩ := certificate.point.exists_head
  rw [IsMark, hat, hnext, hb]
  simp

/-- The scan finds the key of a certificate exactly when it comes first. -/
theorem findPoint_toDer : findPoint certificate.toDer = some certificate.point.bytes ↔
    KeyComesFirst certificate := by
  have hpoint := point_at certificate
  have hlt := point_lt certificate
  rw [findPoint_eq_some]
  constructor
  · rintro ⟨i, -, hfirst, hfound⟩
    have hleading : certificate.point.x.head? ≠ some 0 := by
      obtain ⟨-, b, hb, hne⟩ := hfirst.1
      rw [← EcPoint.getElem?_bytes_one, ← hfound, List.getElem?_take_of_lt (by omega),
        List.getElem?_drop, Option.mem_def.mp hb]
      simpa using hne
    refine ⟨hleading, fun j _ hfirst' ↦ ?_⟩
    rw [isFirstMark_unique hfirst' hfirst, hfound]
  · intro h
    have hmark := (isMark_point certificate).mpr h.leading
    obtain ⟨i, hle, hfirst⟩ := exists_isFirstMark hmark
    refine ⟨i, by omega, hfirst, ?_⟩
    rcases hle.lt_or_eq with hearlier | rfl
    · exact h.earlier i hearlier hfirst
    · exact hpoint

variable {certificate} in
/-- A center announces the key of its certificate exactly when the key comes first. -/
theorem announces_key_iff (armor : Armor certificate.toDer) :
    pubkeyFromPem armor.text = .ok (Base64.encode certificate.point.bytes) ↔
      KeyComesFirst certificate := by
  rw [← findPoint_toDer, pubkeyFromPem, (armor.readers_text (toDer_ne_nil certificate)).1]
  simp only [Except.mapError, bind, Except.bind]
  constructor
  · intro h
    split at h
    · next point hfound =>
      have hdecode := congrArg Base64.decode (Except.ok.inj h)
      rw [Base64.decode_encode, Base64.decode_encode] at hdecode
      rw [hfound, hdecode]
    · cases h
  · intro h
    rw [h]

/-- In a certificate signed by ECDSA a mark comes before the point. -/
theorem isMark_of_ecdsa (h : certificate.signature = ecdsaWithSha256) :
    ∃ i < certificate.beforePoint.length, IsMark certificate.toDer i := by
  obtain ⟨front, back, hbefore⟩ := certificate.algorithm_isInfix
  rw [h] at hbefore
  have hoffset : ∀ k < 8, (certificate.toDer)[front.length + k]? =
      ecdsaWithSha256.algorithm[k]? := by
    intro k hk
    rw [certificate.toDer_eq, ← hbefore, List.append_assoc, List.append_assoc,
      List.getElem?_append_right (Nat.le_add_right _ _), Nat.add_sub_cancel_left,
      List.getElem?_append_left hk]
  refine ⟨front.length + 5, ?_, hoffset 5 (by decide), 3, hoffset 6 (by decide), by decide⟩
  rw [← hbefore]
  simp [ecdsaWithSha256]

/-- What a center with such a certificate announces begins before its key. -/
theorem announces_earlier_bytes (armor : Armor certificate.toDer)
    (h : certificate.signature = ecdsaWithSha256) :
    ∃ i < certificate.beforePoint.length, pubkeyFromPem armor.text =
      .ok (Base64.encode ((certificate.toDer.drop i).take 65)) := by
  have hlt := point_lt certificate
  obtain ⟨j, hj, hmark⟩ := isMark_of_ecdsa certificate h
  obtain ⟨i, hi, hfirst⟩ := exists_isFirstMark hmark
  have hfound := findPoint_eq_some.mpr ⟨i, by omega, hfirst, rfl⟩
  refine ⟨i, by omega, ?_⟩
  rw [pubkeyFromPem, (armor.readers_text (toDer_ne_nil certificate)).1]
  simp only [Except.mapError, bind, Except.bind, hfound]

end Announced

/-! ## A certificate of the certificate library -/

/-- The common name of a sample. -/
def sampleName : Name where
  rdns := [[{
    type := [0x55, 0x04, 0x03]
    value := Der.value 0x0C [0x64, 0x65, 0x73, 0x6B] }]]

/-- The base point of the curve as a public key. -/
def samplePoint : EcPoint where
  x := [0x6B, 0x17, 0xD1, 0xF2, 0xE1, 0x2C, 0x42, 0x47, 0xF8, 0xBC, 0xE6, 0xE5, 0x63, 0xA4, 0x40,
    0xF2, 0x77, 0x03, 0x7D, 0x81, 0x2D, 0xEB, 0x33, 0xA0, 0xF4, 0xA1, 0x39, 0x45, 0xD8, 0x98, 0xC2,
    0x96]
  y := [0x4F, 0xE3, 0x42, 0xE2, 0xFE, 0x1A, 0x7F, 0x9B, 0x8E, 0xE7, 0xEB, 0x4A, 0x7C, 0x0F, 0x9E,
    0x16, 0x2B, 0xCE, 0x33, 0x57, 0x6B, 0x31, 0x5E, 0xCE, 0xCB, 0xB6, 0x40, 0x68, 0x37, 0xBF, 0x51,
    0xF5]
  length_x := rfl
  length_y := rfl

/-- A self-signed certificate. -/
def sampleCertificate : Certificate where
  version := some 2
  serialNumber := [0x01]
  signature := ecdsaWithSha256
  issuer := sampleName
  validity := {
    notBefore := Der.value 0x17 [0x37, 0x35, 0x30, 0x31, 0x30, 0x31, 0x30, 0x30, 0x30, 0x30, 0x30,
      0x30, 0x5A]
    notAfter := Der.value 0x18 [0x34, 0x30, 0x39, 0x36, 0x30, 0x31, 0x30, 0x31, 0x30, 0x30, 0x30,
      0x30, 0x30, 0x30, 0x5A] }
  subject := sampleName
  point := samplePoint
  uniqueIds := []
  extensions := []
  signatureAlgorithm := ecdsaWithSha256
  signatureValue := Der.sequence [Der.integer [0x01], Der.integer [0x01]]

/-- The center announces other bytes than the key of that certificate. -/
theorem signature_algorithm_announced : ¬ ∀ (certificate : Certificate)
    (armor : Armor certificate.toDer),
    pubkeyFromPem armor.text = .ok (Base64.encode certificate.point.bytes) := by
  intro h
  have hfirst := (announces_key_iff (.inOneLine .lf sampleCertificate.toDer)).mp (h _ _)
  have hsame := hfirst.earlier 23 (by decide +kernel) (by decide +kernel)
  exact absurd hsame (by decide +kernel)

end PhoneBridge.MessageCenter
