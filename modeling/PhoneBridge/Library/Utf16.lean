import Mathlib.Data.List.Basic

/-!
# Texts as UTF-16 code units

The strings of a language whose characters are 16-bit code units: a surrogate may stand alone there,
and has no UTF-8 form then. The encoder puts a question mark in its place.
-/

namespace PhoneBridge.Library.Utf16

/-- A text is its code units. -/
abbrev Units := List UInt16

def isHigh (unit : UInt16) : Bool := 0xD800 ≤ unit.toNat && unit.toNat < 0xDC00

def isLow (unit : UInt16) : Bool := 0xDC00 ≤ unit.toNat && unit.toNat < 0xE000

/-- The character that a pair of surrogates stands for. -/
def pairChar (high low : UInt16) : Char :=
  Char.ofNat (0x10000 + (high.toNat - 0xD800) * 0x400 + (low.toNat - 0xDC00))

/-- The character of a code unit that has no partner. -/
def lone (unit : UInt16) : Char :=
  if isHigh unit || isLow unit then '?' else Char.ofNat unit.toNat

/-- The characters that a UTF-8 encoder writes. -/
def chars : Units → List Char
  | [] => []
  | [unit] => [lone unit]
  | unit :: next :: units =>
    if isHigh unit && isLow next then pairChar unit next :: chars units
    else lone unit :: chars (next :: units)

/-- Every surrogate has its partner. -/
def wellFormed : Units → Bool
  | [] => true
  | [unit] => !(isHigh unit || isLow unit)
  | unit :: next :: units =>
    if isHigh unit && isLow next then wellFormed units
    else !(isHigh unit || isLow unit) && wellFormed (next :: units)

/-- The code units of a character. -/
def unitsOf (c : Char) : Units :=
  if c.toNat < 0x10000 then [UInt16.ofNat c.toNat]
  else
    [UInt16.ofNat (0xD800 + (c.toNat - 0x10000) / 0x400),
      UInt16.ofNat (0xDC00 + (c.toNat - 0x10000) % 0x400)]

/-- The text as it arrives at the reader of its UTF-8 form. -/
def sent (units : Units) : String := String.ofList (chars units)

def ofString (s : String) : Units := s.toList.flatMap unitsOf

/-! ## One character -/

section OneCharacter

variable {unit high low : UInt16} {c : Char}

theorem isHigh_iff : isHigh unit = true ↔ 0xD800 ≤ unit.toNat ∧ unit.toNat < 0xDC00 := by
  simp [isHigh]

theorem isLow_iff : isLow unit = true ↔ 0xDC00 ≤ unit.toNat ∧ unit.toNat < 0xE000 := by
  simp [isLow]

theorem not_surrogate_iff :
    (isHigh unit || isLow unit) = false ↔ unit.toNat < 0xD800 ∨ 0xE000 ≤ unit.toNat := by
  rw [Bool.or_eq_false_iff, ← Bool.not_eq_true, ← Bool.not_eq_true, isHigh_iff, isLow_iff]
  omega

theorem toNat_char_cases (c : Char) :
    c.toNat < 0xD800 ∨ 0xE000 ≤ c.toNat ∧ c.toNat < 0x110000 := by
  have hvalid := c.valid
  simp only [UInt32.isValidChar, Nat.isValidChar] at hvalid
  change c.val.toNat < _ ∨ _ ≤ c.val.toNat ∧ c.val.toNat < _
  omega

theorem toNat_ofNat {n : Nat} (h : n < 0xD800 ∨ 0xE000 ≤ n ∧ n < 0x110000) :
    (Char.ofNat n).toNat = n := by
  have hvalid : n.isValidChar := by
    unfold Nat.isValidChar
    omega
  rw [Char.ofNat, dif_pos hvalid]
  rfl

theorem unitsOf_lone (h : (isHigh unit || isLow unit) = false) : unitsOf (lone unit) = [unit] := by
  have hunit := unit.toNat_lt
  have hvalue : (lone unit).toNat = unit.toNat := by
    rw [lone, h]
    refine toNat_ofNat ?_
    rcases not_surrogate_iff.mp h with hlow | hhigh
    · exact .inl hlow
    · exact .inr ⟨hhigh, by omega⟩
  rw [unitsOf, hvalue, if_pos (by omega), UInt16.ofNat_toNat]

theorem unitsOf_pairChar (hhigh : isHigh high = true) (hlow : isLow low = true) :
    unitsOf (pairChar high low) = [high, low] := by
  have ⟨hhigh, hhigh'⟩ := isHigh_iff.mp hhigh
  have ⟨hlow, hlow'⟩ := isLow_iff.mp hlow
  have hvalue : (pairChar high low).toNat =
      0x10000 + (high.toNat - 0xD800) * 0x400 + (low.toNat - 0xDC00) :=
    toNat_ofNat (.inr ⟨by omega, by omega⟩)
  have hfirst : 0xD800 + ((pairChar high low).toNat - 0x10000) / 0x400 = high.toNat := by
    rw [hvalue]
    omega
  have hsecond : 0xDC00 + ((pairChar high low).toNat - 0x10000) % 0x400 = low.toNat := by
    rw [hvalue]
    omega
  rw [unitsOf, if_neg (by omega), hfirst, hsecond, UInt16.ofNat_toNat, UInt16.ofNat_toNat]

/-- The units of a character are one that is no surrogate, or a pair. -/
theorem unitsOf_cases (c : Char) :
    (∃ unit, unitsOf c = [unit] ∧ (isHigh unit || isLow unit) = false ∧ lone unit = c) ∨
      ∃ high low, unitsOf c = [high, low] ∧ isHigh high = true ∧ isLow low = true ∧
        pairChar high low = c := by
  have hcases := toNat_char_cases c
  unfold unitsOf
  split
  · next hsmall =>
    have hunit : (UInt16.ofNat c.toNat).toNat = c.toNat := by
      rw [UInt16.toNat_ofNat']
      omega
    have hnone : (isHigh (.ofNat c.toNat) || isLow (.ofNat c.toNat)) = false := by
      rw [not_surrogate_iff, hunit]
      omega
    refine .inl ⟨_, rfl, hnone, ?_⟩
    rw [lone, hnone, hunit]
    exact Char.ofNat_toNat c
  · next hlarge =>
    have hfirst : (UInt16.ofNat (0xD800 + (c.toNat - 0x10000) / 0x400)).toNat =
        0xD800 + (c.toNat - 0x10000) / 0x400 := by
      rw [UInt16.toNat_ofNat']
      omega
    have hsecond : (UInt16.ofNat (0xDC00 + (c.toNat - 0x10000) % 0x400)).toNat =
        0xDC00 + (c.toNat - 0x10000) % 0x400 := by
      rw [UInt16.toNat_ofNat']
      omega
    refine .inr ⟨_, _, rfl, ?_, ?_, ?_⟩
    · rw [isHigh_iff, hfirst]
      omega
    · rw [isLow_iff, hsecond]
      omega
    · rw [pairChar, hfirst, hsecond]
      have hvalue : 0x10000 + (0xD800 + (c.toNat - 0x10000) / 0x400 - 0xD800) * 0x400 +
          (0xDC00 + (c.toNat - 0x10000) % 0x400 - 0xDC00) = c.toNat := by
        omega
      rw [hvalue]
      exact Char.ofNat_toNat c

end OneCharacter

/-! ## Texts -/

section Texts

variable (c : Char) (units : Units)

theorem chars_append : chars (unitsOf c ++ units) = c :: chars units := by
  rcases unitsOf_cases c with ⟨unit, hunits, hnone, hc⟩ | ⟨high, low, hunits, hhigh, hlow, hc⟩
  · have hnotHigh := (Bool.or_eq_false_iff.mp hnone).1
    rw [hunits]
    cases units with
    | nil => simp [chars, hc]
    | cons next units => simp [chars, hc, hnotHigh]
  · rw [hunits]
    simp [chars, hhigh, hlow, hc]

theorem wellFormed_append : wellFormed (unitsOf c ++ units) = wellFormed units := by
  rcases unitsOf_cases c with ⟨unit, hunits, hnone, -⟩ | ⟨high, low, hunits, hhigh, hlow, -⟩
  · have ⟨hnotHigh, hnotLow⟩ := Bool.or_eq_false_iff.mp hnone
    rw [hunits]
    cases units <;> simp [wellFormed, hnotHigh, hnotLow]
  · rw [hunits]
    simp [wellFormed, hhigh, hlow]

end Texts

/-- A text of characters arrives as it is. -/
@[simp]
theorem sent_ofString (s : String) : sent (ofString s) = s := by
  have hchars : ∀ cs : List Char, chars (cs.flatMap unitsOf) = cs := by
    intro cs
    induction cs with
    | nil => rfl
    | cons c cs ih => rw [List.flatMap_cons, chars_append, ih]
  rw [sent, ofString, hchars, String.ofList_toList]

@[simp]
theorem wellFormed_ofString (s : String) : wellFormed (ofString s) = true := by
  unfold ofString
  induction s.toList with
  | nil => rfl
  | cons c cs ih => rw [List.flatMap_cons, wellFormed_append, ih]

/-- A text whose surrogates are paired arrives as it is. -/
theorem ofString_sent {units : Units} (h : wellFormed units = true) :
    ofString (sent units) = units := by
  rw [ofString, sent, String.toList_ofList]
  fun_induction chars units with
  | case1 => rfl
  | case2 unit =>
    have hnone : (isHigh unit || isLow unit) = false := by simpa [wellFormed] using h
    rw [List.flatMap_cons, unitsOf_lone hnone]
    rfl
  | case3 unit next units hpair ih =>
    have ⟨hhigh, hlow⟩ := Bool.and_eq_true_iff.mp hpair
    rw [wellFormed, if_pos hpair] at h
    rw [List.flatMap_cons, unitsOf_pairChar hhigh hlow, ih h]
    rfl
  | case4 unit next units hpair ih =>
    rw [wellFormed, if_neg hpair, Bool.and_eq_true_iff] at h
    have hnone : (isHigh unit || isLow unit) = false := by simpa using h.1
    rw [List.flatMap_cons, unitsOf_lone hnone, ih h.2]
    rfl

/-- A text that is cut inside a pair arrives with a question mark. -/
example : sent ((ofString "a😀").take 2) = "a?" := by
  decide +kernel

end PhoneBridge.Library.Utf16
