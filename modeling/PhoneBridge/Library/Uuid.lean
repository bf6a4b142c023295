import PhoneBridge.Library.Hex
import Mathlib.Data.BitVec

/-!
# Universally unique identifiers

An identifier of 128 bits and its textual forms. The canonical form has 32 lower-case digits in
groups of 8, 4, 4, 4 and 12; a reader also accepts upper-case digits, no hyphens, braces and the
URN prefix.
-/

namespace PhoneBridge.Library

/-- A 128-bit identifier. -/
structure Uuid where
  bits : BitVec 128
  deriving DecidableEq, Repr, Inhabited

namespace Uuid

/-- The identifier with all bits zero. -/
def nil : Uuid := ⟨0⟩

/-- Separate groups of the given sizes from the rest by hyphens. -/
def hyphenate : List Nat → List Char → List Char
  | [], cs => cs
  | size :: sizes, cs => cs.take size ++ '-' :: hyphenate sizes (cs.drop size)

/-- Remove the hyphens after groups of the given sizes. -/
def unhyphenate : List Nat → List Char → Option (List Char)
  | [], cs => some cs
  | size :: sizes, cs =>
    if (cs.drop size).head? = some '-' then
      (unhyphenate sizes (cs.drop (size + 1))).map (cs.take size ++ ·)
    else none

theorem unhyphenate_hyphenate {sizes : List Nat} {cs : List Char} (h : sizes.sum ≤ cs.length) :
    unhyphenate sizes (hyphenate sizes cs) = some cs := by
  induction sizes generalizing cs with
  | nil => rfl
  | cons size sizes ih =>
    rw [List.sum_cons] at h
    have htake : (cs.take size).length = size := by simp; omega
    have htail : sizes.sum ≤ (cs.drop size).length := by simp; omega
    have hpast : (cs.take size).drop (size + 1) = [] := List.drop_eq_nil_of_le (by simp)
    simp [hyphenate, unhyphenate, List.drop_append, htake, hpast, ih htail]

theorem mem_hyphenate {sizes : List Nat} {cs : List Char} {c : Char} (h : c ∈ hyphenate sizes cs) :
    c ∈ cs ∨ c = '-' := by
  induction sizes generalizing cs with
  | nil => exact .inl h
  | cons size sizes ih =>
    rw [hyphenate, List.mem_append, List.mem_cons] at h
    rcases h with hfront | hhyphen | hrest
    · exact .inl (List.mem_of_mem_take hfront)
    · exact .inr hhyphen
    · exact (ih hrest).imp_left List.mem_of_mem_drop

/-- The canonical digits. -/
def simpleDigits (u : Uuid) : List Char := Hex.digits Hex.lower u.bits.toNat 32

/-- The canonical text. -/
def toText (u : Uuid) : String := String.ofList (hyphenate [8, 4, 4, 4] u.simpleDigits)

/-- Read 32 digits. -/
def parseSimple (cs : List Char) : Option Uuid :=
  if cs.length = 32 then (Hex.number cs).map fun n ↦ ⟨BitVec.ofNat 128 n⟩ else none

/-- Read 36 characters with hyphens between the groups. -/
def parseHyphenated (cs : List Char) : Option Uuid :=
  (unhyphenate [8, 4, 4, 4] cs).bind parseSimple

/-- Read any of the accepted forms. -/
def parse (s : String) : Option Uuid :=
  let cs := s.toList
  if cs.length = 32 then parseSimple cs
  else if cs.length = 36 then parseHyphenated cs
  else if cs.length = 38 ∧ cs.head? = some '{' ∧ cs.getLast? = some '}' then
    parseHyphenated (cs.drop 1).dropLast
  else if cs.length = 45 ∧ cs.take 9 = "urn:uuid:".toList then parseHyphenated (cs.drop 9)
  else none

theorem length_hyphenate {sizes : List Nat} {cs : List Char} (h : sizes.sum ≤ cs.length) :
    (hyphenate sizes cs).length = cs.length + sizes.length := by
  induction sizes generalizing cs with
  | nil => rfl
  | cons size sizes ih =>
    rw [List.sum_cons] at h
    have htail : sizes.sum ≤ (cs.drop size).length := by simp; omega
    simp [hyphenate, ih htail]
    omega

/-- Reading the canonical text gives the identifier back. -/
@[simp]
theorem parse_toText (u : Uuid) : parse u.toText = some u := by
  have hlength : u.simpleDigits.length = 32 := Hex.length_digits _ _ _
  have hsum : [8, 4, 4, 4].sum ≤ u.simpleDigits.length := by rw [hlength]; decide
  have htext : (hyphenate [8, 4, 4, 4] u.simpleDigits).length = 36 := by
    rw [length_hyphenate hsum, hlength]
    rfl
  have hnumber : Hex.number u.simpleDigits = some u.bits.toNat :=
    Hex.number_digits (fun _ ↦ Hex.value_lower) (by simpa using u.bits.isLt)
  simp [parse, toText, htext, parseHyphenated, unhyphenate_hyphenate hsum, parseSimple, hlength,
    hnumber]

/-- The `width` bytes of a number, most significant first. -/
def bytesOf (n : Nat) : Nat → List UInt8
  | 0 => []
  | width + 1 => bytesOf (n / 256) width ++ [UInt8.ofNat n]

/-- The 16 bytes of an identifier. -/
def asBytes (u : Uuid) : List UInt8 := bytesOf u.bits.toNat 16

/-- A number that fits is determined by its bytes. -/
theorem bytesOf_inj {n m width : Nat} (hn : n < 256 ^ width) (hm : m < 256 ^ width)
    (h : bytesOf n width = bytesOf m width) : n = m := by
  induction width generalizing n m with
  | zero => omega
  | succ width ih =>
    rw [pow_succ] at hn hm
    obtain ⟨hfront, hlast⟩ := List.append_inj' h rfl
    have hhigh : n / 256 = m / 256 :=
      ih (Nat.div_lt_of_lt_mul (by omega)) (Nat.div_lt_of_lt_mul (by omega)) hfront
    have hlow : n % 256 = m % 256 := by
      have hbyte := congrArg UInt8.toNat (List.cons.inj hlast).1
      rwa [UInt8.toNat_ofNat', UInt8.toNat_ofNat'] at hbyte
    omega

theorem asBytes_inj {u v : Uuid} : u.asBytes = v.asBytes ↔ u = v := by
  constructor
  · intro h
    have hbits : u.bits.toNat = v.bits.toNat :=
      bytesOf_inj (by simpa using u.bits.isLt) (by simpa using v.bits.isLt) h
    cases u
    cases v
    exact congrArg mk (BitVec.eq_of_toNat_eq hbits)
  · exact congrArg asBytes

end Uuid

end PhoneBridge.Library
