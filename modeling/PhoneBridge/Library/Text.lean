import Mathlib.Algebra.GroupWithZero.Nat
import Mathlib.Data.List.Basic
import Mathlib.Data.List.Infix

/-!
# Text

The string operations of the two languages that have no counterpart of the same meaning: substring
search, the length in bytes and the length in UTF-16 code units, trimming, and reading a number.
-/

namespace PhoneBridge.Library.Text

/-- Does the text contain this substring? -/
def contains (s part : String) : Bool := decide (part.toList <:+: s.toList)

/-- The number of bytes of the UTF-8 form. -/
def utf8Length (cs : List Char) : Nat := (cs.map Char.utf8Size).sum

/-- The number of code units of the UTF-16 form. -/
def utf16Length (cs : List Char) : Nat :=
  (cs.map fun c ↦ if c.toNat < 0x10000 then 1 else 2).sum

/-- Does `isWhitespace` hold of the character in Kotlin? These are the separators of Unicode and
nine control characters. -/
def isKotlinWhitespace (c : Char) : Bool :=
  let n := c.toNat
  (0x09 ≤ n && n ≤ 0x0D) || (0x1C ≤ n && n ≤ 0x20) || (0x2000 ≤ n && n ≤ 0x200A) ||
    [0xA0, 0x1680, 0x2028, 0x2029, 0x202F, 0x205F, 0x3000].contains n

/-- Is the text blank: empty or white space only? -/
def isBlank (s : String) : Bool := s.toList.all isKotlinWhitespace

/-- The characters without those at both ends that are to be dropped. -/
def trimBy (drop : Char → Bool) (cs : List Char) : List Char :=
  ((cs.dropWhile drop).reverse.dropWhile drop).reverse

/-- The text without the white space at both ends. -/
def trim (s : String) : String := String.ofList (trimBy isKotlinWhitespace s.toList)

/-- Does `is_whitespace` hold of the character in Rust? These have the Unicode property
`White_Space`. -/
def isWhiteSpace (c : Char) : Bool :=
  let n := c.toNat
  (0x09 ≤ n && n ≤ 0x0D) || (0x2000 ≤ n && n ≤ 0x200A) ||
    [0x20, 0x85, 0xA0, 0x1680, 0x2028, 0x2029, 0x202F, 0x205F, 0x3000].contains n

/-- The lines of a text, each without the white space at its ends. -/
def trimmedLines (s : String) : List (List Char) :=
  (s.toList.splitOn '\n').map (trimBy isWhiteSpace)

/-- The digits zero of the basic plane; each has the other nine after it. -/
def decimalZeros : List Nat :=
  [0x30, 0x660, 0x6F0, 0x7C0, 0x966, 0x9E6, 0xA66, 0xAE6, 0xB66, 0xBE6, 0xC66, 0xCE6, 0xD66,
    0xDE6, 0xE50, 0xED0, 0xF20, 0x1040, 0x1090, 0x17E0, 0x1810, 0x1946, 0x19D0, 0x1A80, 0x1A90,
    0x1B50, 0x1BB0, 0x1C40, 0x1C50, 0xA620, 0xA8D0, 0xA900, 0xA9D0, 0xA9F0, 0xAA50, 0xABF0,
    0xFF10]

/-- The value of a decimal digit, in any script. -/
def digitValue (c : Char) : Option Nat :=
  (decimalZeros.find? fun first ↦ first ≤ c.toNat && c.toNat < first + 10).map (c.toNat - ·)

/-- The number that a decimal text denotes, when it fits 32 bits. -/
def toIntOrNull (s : String) : Option Int32 :=
  let (sign, digits) : Int × List Char := match s.toList with
    | '-' :: digits => (-1, digits)
    | '+' :: digits => (1, digits)
    | digits => (1, digits)
  (digits.mapM digitValue).bind fun values ↦
    let n := sign * values.foldl (fun acc value ↦ acc * 10 + value) (0 : Nat)
    if values ≠ [] ∧ -2147483648 ≤ n ∧ n ≤ 2147483647 then some (Int32.ofInt n) else none

theorem utf8Size_of_ascii {c : Char} (h : c.toNat < 128) : c.utf8Size = 1 := by
  have hval : c.val ≤ 127 := by
    rw [UInt32.le_iff_toNat_le]
    exact Nat.le_of_lt_succ h
  simp [Char.utf8Size, hval]

theorem utf8Length_of_ascii {cs : List Char} (h : ∀ c ∈ cs, c.toNat < 128) :
    utf8Length cs = cs.length := by
  have hbytes : cs.map Char.utf8Size = cs.map fun _ ↦ 1 :=
    List.map_congr_left fun c hc ↦ utf8Size_of_ascii (h c hc)
  simp [utf8Length, hbytes]

theorem utf16Length_of_ascii {cs : List Char} (h : ∀ c ∈ cs, c.toNat < 128) :
    utf16Length cs = cs.length := by
  have hunits : cs.map (fun c ↦ if c.toNat < 0x10000 then 1 else 2) = cs.map fun _ ↦ 1 := by
    refine List.map_congr_left fun c hc ↦ ?_
    have hascii := h c hc
    rw [if_pos (by omega)]
  simp [utf16Length, hunits]

theorem toNat_lt_of_isDigit {c : Char} (h : c.isDigit = true) : c.toNat < 128 := by
  rw [Char.isDigit_iff_toNat] at h
  have hnine : '9'.toNat = 57 := rfl
  omega

/-! ## Joined pieces -/

theorem mem_intercalate {separator c : Char} {pieces : List (List Char)} :
    c ∈ [separator].intercalate pieces → c = separator ∨ ∃ piece ∈ pieces, c ∈ piece := by
  induction pieces with
  | nil => simp
  | cons piece pieces ih =>
    cases pieces with
    | nil => simpa using Or.inr
    | cons next pieces =>
      rw [List.intercalate_cons_cons, List.mem_append, List.mem_append, List.mem_singleton]
      rintro ((hpiece | rfl) | hrest)
      · exact .inr ⟨piece, List.mem_cons_self, hpiece⟩
      · exact .inl rfl
      · rcases ih hrest with rfl | ⟨other, hother, hc⟩
        · exact .inl rfl
        · exact .inr ⟨other, List.mem_cons_of_mem _ hother, hc⟩

theorem mem_intercalate_of_mem {separator c : Char} {pieces : List (List Char)}
    {piece : List Char} (hpiece : piece ∈ pieces) (hc : c ∈ piece) :
    c ∈ [separator].intercalate pieces := by
  induction pieces with
  | nil => cases hpiece
  | cons first pieces ih =>
    cases pieces with
    | nil =>
      rw [List.mem_singleton] at hpiece
      simpa [← hpiece] using hc
    | cons next pieces =>
      rw [List.intercalate_cons_cons, List.mem_append, List.mem_append]
      rcases List.mem_cons.mp hpiece with rfl | hrest
      · exact .inl (.inl hc)
      · exact .inr (ih hrest)

/-! ## Lines -/

theorem trimBy_append_singleton {drop : Char → Bool} {c : Char} (cs : List Char)
    (hdrop : drop c = true) : trimBy drop (cs ++ [c]) = trimBy drop cs := by
  have hfront : (cs ++ [c]).dropWhile drop = cs.dropWhile drop ++ [c] ∨
      (cs ++ [c]).dropWhile drop = [] ∧ cs.dropWhile drop = [] := by
    induction cs with
    | nil => simp [hdrop]
    | cons first cs ih =>
      cases hfirst : drop first with
      | true => simpa [hfirst] using ih
      | false => simp [hfirst]
  rcases hfront with hkept | ⟨hnone, hempty⟩
  · rw [trimBy, hkept, List.reverse_append, List.reverse_singleton, List.singleton_append,
      List.dropWhile_cons_of_pos hdrop, trimBy]
  · rw [trimBy, hnone, trimBy, hempty]

theorem trimBy_of_clean {drop : Char → Bool} {cs : List Char} (h : ∀ c ∈ cs, drop c = false) :
    trimBy drop cs = cs := by
  have hfront : cs.dropWhile drop = cs := by
    cases cs with
    | nil => rfl
    | cons first cs => exact List.dropWhile_cons_of_neg (by simp [h first])
  have hback : cs.reverse.dropWhile drop = cs.reverse := by
    cases hreverse : cs.reverse with
    | nil => rfl
    | cons last front =>
      have hlast : last ∈ cs := List.mem_reverse.mp (hreverse ▸ List.mem_cons_self)
      exact List.dropWhile_cons_of_neg (by simp [h last hlast])
  rw [trimBy, hfront, hback, List.reverse_reverse]

/-- The end of a line. -/
inductive LineEnd
  | lf
  | crlf
  deriving DecidableEq, Repr

def LineEnd.chars : LineEnd → List Char
  | .lf => ['\n']
  | .crlf => ['\r', '\n']

/-- A text of lines. -/
def ofLines (lineEnd : LineEnd) (lines : List (List Char)) : String :=
  String.ofList (lines.flatMap (· ++ lineEnd.chars))

/-- A line that is written is read back, if it has no white space at its ends. -/
theorem trimmedLines_ofLines (lineEnd : LineEnd) {lines : List (List Char)}
    (h : ∀ line ∈ lines, '\n' ∉ line ∧ trimBy isWhiteSpace line = line) :
    trimmedLines (ofLines lineEnd lines) = lines ++ [[]] := by
  rw [trimmedLines, ofLines, String.toList_ofList]
  induction lines with
  | nil => rfl
  | cons line lines ih =>
    obtain ⟨⟨hbreak, htrim⟩, hlines⟩ := List.forall_mem_cons.mp h
    have htail := ih hlines
    rw [List.flatMap_cons]
    cases lineEnd with
    | lf =>
      have hsplit : line ++ LineEnd.chars .lf ++ lines.flatMap (· ++ LineEnd.chars .lf) =
          line ++ '\n' :: lines.flatMap (· ++ LineEnd.chars .lf) := by
        simp [LineEnd.chars]
      rw [hsplit, List.splitOn_append_cons_self_of_not_mem hbreak, List.map_cons, htrim, htail]
      rfl
    | crlf =>
      have hbreak' : '\n' ∉ line ++ ['\r'] := by simpa using hbreak
      have hsplit : line ++ LineEnd.chars .crlf ++ lines.flatMap (· ++ LineEnd.chars .crlf) =
          (line ++ ['\r']) ++ '\n' :: lines.flatMap (· ++ LineEnd.chars .crlf) := by
        simp [LineEnd.chars]
      rw [hsplit, List.splitOn_append_cons_self_of_not_mem hbreak', List.map_cons,
        trimBy_append_singleton line (by decide), htrim, htail]
      rfl

end PhoneBridge.Library.Text
