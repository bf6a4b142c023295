import Mathlib.Data.List.Basic
import PhoneBridge.Library.Text

/-!
# UTF-8 bytes and byte offsets

A text as its bytes, and its slices at byte offsets, which must be boundaries of characters.
-/

namespace PhoneBridge.Library.Utf8

open Text

/-- The bytes of a text. -/
def bytes (cs : List Char) : List UInt8 := cs.flatMap String.utf8EncodeChar

/-- The character whose number is the byte. -/
def latin1 (b : UInt8) : Char := Char.ofNat b.toNat

/-- The text from a byte offset on; `none` when the offset is no boundary. -/
def sliceFrom : List Char → Nat → Option (List Char)
  | cs, 0 => some cs
  | [], _ + 1 => none
  | c :: cs, offset + 1 =>
    if c.utf8Size ≤ offset + 1 then sliceFrom cs (offset + 1 - c.utf8Size) else none

/-- The text up to a byte offset; `none` when the offset is no boundary. -/
def sliceTo : List Char → Nat → Option (List Char)
  | _, 0 => some []
  | [], _ + 1 => none
  | c :: cs, offset + 1 =>
    if c.utf8Size ≤ offset + 1 then (sliceTo cs (offset + 1 - c.utf8Size)).map (c :: ·) else none

/-- The text between two byte offsets. -/
def slice (cs : List Char) (start stop : Nat) : Option (List Char) :=
  (sliceFrom cs start).bind (sliceTo · (stop - start))

/-- The byte offset of the first occurrence of a character. -/
def find (cs : List Char) (c : Char) : Option Nat :=
  if c ∈ cs then some (utf8Length (cs.takeWhile (· ≠ c))) else none

/-! ## Boundaries -/

@[simp]
theorem utf8Length_nil : utf8Length [] = 0 := rfl

@[simp]
theorem utf8Length_cons (c : Char) (cs : List Char) :
    utf8Length (c :: cs) = c.utf8Size + utf8Length cs := by
  simp [utf8Length]

@[simp]
theorem utf8Length_append (front back : List Char) :
    utf8Length (front ++ back) = utf8Length front + utf8Length back := by
  simp [utf8Length]

theorem bytes_cons (c : Char) (cs : List Char) :
    bytes (c :: cs) = String.utf8EncodeChar c ++ bytes cs := rfl

theorem bytes_append (front back : List Char) : bytes (front ++ back) = bytes front ++ bytes back :=
  List.flatMap_append

theorem length_bytes (cs : List Char) : (bytes cs).length = utf8Length cs := by
  induction cs with
  | nil => rfl
  | cons c cs ih => rw [bytes_cons, List.length_append, String.length_utf8EncodeChar, ih,
      utf8Length_cons]

/-- A first character takes up bytes that the rest does not need. -/
theorem utf8Length_cons_eq_succ (c : Char) (cs : List Char) :
    ∃ n, utf8Length (c :: cs) = n + 1 ∧ c.utf8Size ≤ n + 1 ∧
      n + 1 - c.utf8Size = utf8Length cs := by
  obtain ⟨size, hsize⟩ := Nat.exists_eq_add_of_lt c.utf8Size_pos
  refine ⟨size + utf8Length cs, ?_, ?_, ?_⟩
  · rw [utf8Length_cons]
    omega
  · omega
  · omega

/-- The end of a front part is a boundary. -/
theorem sliceFrom_append (front back : List Char) :
    sliceFrom (front ++ back) (utf8Length front) = some back := by
  induction front with
  | nil => simp [sliceFrom]
  | cons c front ih =>
    obtain ⟨n, hoffset, hsize, hrest⟩ := utf8Length_cons_eq_succ c front
    rw [hoffset, List.cons_append, sliceFrom, if_pos hsize, hrest, ih]

theorem sliceTo_append (front back : List Char) :
    sliceTo (front ++ back) (utf8Length front) = some front := by
  induction front with
  | nil => simp [sliceTo]
  | cons c front ih =>
    obtain ⟨n, hoffset, hsize, hrest⟩ := utf8Length_cons_eq_succ c front
    rw [hoffset, List.cons_append, sliceTo, if_pos hsize, hrest, ih, Option.map_some]

/-- A middle part between its two boundaries. -/
theorem slice_append (front middle back : List Char) :
    slice (front ++ (middle ++ back)) (utf8Length front) (utf8Length front + utf8Length middle) =
      some middle := by
  rw [slice, sliceFrom_append, Option.bind_some, Nat.add_sub_cancel_left, sliceTo_append]

/-- A text around the first occurrence of a character. -/
theorem around_of_mem {c : Char} {cs : List Char} (h : c ∈ cs) :
    cs.takeWhile (· ≠ c) ++ c :: (cs.dropWhile (· ≠ c)).tail = cs := by
  induction cs with
  | nil => cases h
  | cons first cs ih =>
    by_cases hfirst : first = c
    · simp [hfirst]
    · have hrest := (List.mem_cons.mp h).resolve_left (Ne.symm hfirst)
      simpa [hfirst] using ih hrest

/-! ## The bytes of a character -/

theorem utf8EncodeChar_of_ascii {c : Char} (h : c.toNat < 128) :
    String.utf8EncodeChar c = [UInt8.ofNat c.toNat] := by
  rw [String.utf8EncodeChar]
  exact if_pos (Nat.le_of_lt_succ h)

theorem latin1_of_ascii {c : Char} (h : c.toNat < 128) :
    (String.utf8EncodeChar c).map latin1 = [c] := by
  have hbyte : (UInt8.ofNat c.toNat).toNat = c.toNat := by
    rw [UInt8.toNat_ofNat']
    omega
  rw [utf8EncodeChar_of_ascii h, List.map_singleton, latin1, hbyte, Char.ofNat_toNat]

/-- The bytes of a character that is not ASCII are not ASCII either. -/
theorem high_of_mem {c : Char} (h : 128 ≤ c.toNat) {b : UInt8}
    (hb : b ∈ String.utf8EncodeChar c) : 128 ≤ b.toNat := by
  have hlow : ¬ c.val.toNat ≤ 0x7f := Nat.not_le.mpr h
  rw [String.utf8EncodeChar] at hb
  simp only [hlow, if_false] at hb
  split at hb
  · simp only [List.mem_cons, List.not_mem_nil, or_false] at hb
    rcases hb with rfl | rfl <;> rw [UInt8.toNat_ofNat'] <;> omega
  · split at hb
    · simp only [List.mem_cons, List.not_mem_nil, or_false] at hb
      rcases hb with rfl | rfl | rfl <;> rw [UInt8.toNat_ofNat'] <;> omega
    · simp only [List.mem_cons, List.not_mem_nil, or_false] at hb
      rcases hb with rfl | rfl | rfl | rfl <;> rw [UInt8.toNat_ofNat'] <;> omega

/-- An ASCII byte of a character is the character. -/
theorem eq_of_mem {c ascii : Char} (hascii : ascii.toNat < 128)
    (h : UInt8.ofNat ascii.toNat ∈ String.utf8EncodeChar c) : c = ascii := by
  have hbyte : (UInt8.ofNat ascii.toNat).toNat = ascii.toNat := by
    rw [UInt8.toNat_ofNat']
    omega
  by_cases hc : c.toNat < 128
  · rw [utf8EncodeChar_of_ascii hc, List.mem_singleton] at h
    have hnat : (UInt8.ofNat ascii.toNat).toNat = (UInt8.ofNat c.toNat).toNat := by rw [h]
    rw [hbyte, UInt8.toNat_ofNat'] at hnat
    apply Char.toNat_inj.mp
    omega
  · have hhigh := high_of_mem (Nat.le_of_not_lt hc) h
    omega

end PhoneBridge.Library.Utf8
