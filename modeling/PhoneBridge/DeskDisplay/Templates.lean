import Mathlib.Algebra.Order.BigOperators.Group.List
import Mathlib.Algebra.Order.Group.Nat
import PhoneBridge.Library.Utf8

/-!
# Templates

`render` of the display's `i18n.rs` walks over the bytes of a template. A placeholder runs from an
opening brace to the next closing one. Everything else is copied byte by byte, each byte as the
character with its number: exact for ASCII, and only for ASCII.
-/

namespace PhoneBridge.DeskDisplay

open Library Utf8 Text

/-! ## The loop -/

/-- What a placeholder becomes; an unknown one is left in place. -/
def substituted (vars : List (String × String)) (key : List Char) : List Char :=
  match vars.lookup (String.ofList key) with
  | some value => value.toList
  | none => '{' :: (key ++ ['}'])

section Loop

variable (template : List Char) (vars : List (String × String))

/-- The loop of `render` from byte `i` on; `none` is a panic of a slice. -/
def renderLoop (i : Nat) (out : List Char) : Option (List Char) :=
  if hi : i < (bytes template).length then
    if (bytes template)[i] = UInt8.ofNat '{'.toNat then
      match sliceFrom template (i + 1) with
      | none => none
      | some rest =>
        match find rest '}' with
        | some close =>
          match slice template (i + 1) (i + 1 + close) with
          | none => none
          | some key => renderLoop (i + (1 + close + 1)) (out ++ substituted vars key)
        | none => renderLoop (i + 1) (out ++ [latin1 (bytes template)[i]])
    else renderLoop (i + 1) (out ++ [latin1 (bytes template)[i]])
  else some out
termination_by (bytes template).length - i

end Loop

/-- Apply simple `{key}` substitution to a template. -/
def render (template : String) (vars : List (String × String)) : Option String :=
  (renderLoop template.toList vars 0 []).map String.ofList

/-! ## The parts of a template -/

/-- A placeholder, or another character. -/
inductive Piece
  | char (c : Char)
  | placeholder (key : List Char)

/-- A template as its placeholders, each from an opening brace to the next closing one, and its
other characters. -/
def pieces : List Char → List Piece
  | [] => []
  | c :: cs =>
    if c = '{' ∧ '}' ∈ cs then
      .placeholder (cs.takeWhile (· ≠ '}')) :: pieces (cs.dropWhile (· ≠ '}')).tail
    else .char c :: pieces cs
termination_by template => template.length
decreasing_by
  · have hrest := (List.dropWhile_suffix (l := cs) (· ≠ '}')).length_le
    rw [List.length_tail, List.length_cons]
    omega
  · exact Nat.lt_succ_self cs.length

namespace Piece

/-- The text of a part. -/
def source : Piece → List Char
  | char c => [c]
  | placeholder key => '{' :: (key ++ ['}'])

/-- What a part should become. -/
def expanded (vars : List (String × String)) : Piece → List Char
  | char c => [c]
  | placeholder key => substituted vars key

/-- What the loop appends for a part. -/
def appended (vars : List (String × String)) : Piece → List Char
  | char c => (String.utf8EncodeChar c).map latin1
  | placeholder key => substituted vars key

end Piece

/-- The template with its placeholders substituted and everything else kept. -/
def rendered (template : String) (vars : List (String × String)) : String :=
  String.ofList ((pieces template.toList).flatMap (Piece.expanded vars))

/-- The template is its parts, in order. -/
theorem source_pieces (template : List Char) :
    (pieces template).flatMap Piece.source = template := by
  induction template using pieces.induct with
  | case1 => simp [pieces]
  | case2 c cs hplaceholder ih =>
    rw [pieces, if_pos hplaceholder, List.flatMap_cons, ih, Piece.source, ← hplaceholder.1]
    simpa using around_of_mem hplaceholder.2
  | case3 c cs hother ih =>
    rw [pieces, if_neg hother, List.flatMap_cons, ih]
    rfl

/-! ## What the loop does -/

section Loop

variable {template : List Char} {vars : List (String × String)} {i : Nat} {out : List Char}

/-- Bytes that are no opening brace are copied. -/
theorem renderLoop_copies {front middle back : List UInt8}
    (hbytes : bytes template = front ++ (middle ++ back))
    (hmiddle : ∀ b ∈ middle, b ≠ UInt8.ofNat '{'.toNat) (out : List Char) :
    renderLoop template vars front.length out =
      renderLoop template vars (front.length + middle.length) (out ++ middle.map latin1) := by
  induction middle generalizing front out with
  | nil => simp
  | cons b middle ih =>
    rw [List.forall_mem_cons] at hmiddle
    have hlt : front.length < (bytes template).length := by
      rw [hbytes]
      simp
    have hbyte : (bytes template)[front.length] = b := by
      simp [hbytes]
    have hafter : bytes template = (front ++ [b]) ++ (middle ++ back) := by simpa using hbytes
    have hnext := ih hafter hmiddle.2 (out ++ [latin1 b])
    rw [renderLoop, dif_pos hlt, hbyte, if_neg hmiddle.1]
    simpa [Nat.add_assoc, Nat.add_comm 1] using hnext

/-- The byte of an opening brace. -/
theorem bytes_brace {front cs : List Char} (htemplate : template = front ++ '{' :: cs) :
    ∃ hlt : utf8Length front < (bytes template).length,
      (bytes template)[utf8Length front] = UInt8.ofNat '{'.toNat := by
  have hbytes : bytes template = bytes front ++ (UInt8.ofNat '{'.toNat :: bytes cs) := by
    rw [htemplate, bytes_append, bytes_cons, utf8EncodeChar_of_ascii (by decide)]
    rfl
  have hlt : utf8Length front < (bytes template).length := by
    rw [hbytes, ← length_bytes]
    simp
  refine ⟨hlt, ?_⟩
  simp [hbytes, ← length_bytes]

/-- A placeholder is substituted as a whole. -/
theorem renderLoop_placeholder {front cs : List Char} (hclose : '}' ∈ cs)
    (htemplate : template = front ++ '{' :: cs) (out : List Char) :
    renderLoop template vars (utf8Length front) out =
      renderLoop template vars
        (utf8Length (front ++ '{' :: (cs.takeWhile (· ≠ '}') ++ ['}'])))
        (out ++ substituted vars (cs.takeWhile (· ≠ '}'))) := by
  obtain ⟨hlt, hbyte⟩ := bytes_brace htemplate
  have hbrace : ('{').utf8Size = 1 := by decide
  have hnext : utf8Length (front ++ ['{']) = utf8Length front + 1 := by simp [hbrace]
  have hafter : sliceFrom template (utf8Length front + 1) = some cs := by
    rw [htemplate, ← hnext, ← List.singleton_append, ← List.append_assoc, sliceFrom_append]
  have hfind : find cs '}' = some (utf8Length (cs.takeWhile (· ≠ '}'))) := if_pos hclose
  have hkey : slice template (utf8Length front + 1)
      (utf8Length front + 1 + utf8Length (cs.takeWhile (· ≠ '}'))) =
        some (cs.takeWhile (· ≠ '}')) := by
    have hparts : template = (front ++ ['{']) ++ (cs.takeWhile (· ≠ '}') ++
        '}' :: (cs.dropWhile (· ≠ '}')).tail) := by
      rw [around_of_mem hclose, htemplate]
      simp
    rw [hparts, ← hnext]
    exact slice_append ..
  rw [renderLoop, dif_pos hlt, if_pos hbyte]
  simp only [hafter, hfind, hkey]
  congr 1
  have hclosing : ('}').utf8Size = 1 := by decide
  simp [hbrace, hclosing]
  omega

/-- Another character is copied byte by byte. -/
theorem renderLoop_char {front cs : List Char} {c : Char} (hother : ¬ (c = '{' ∧ '}' ∈ cs))
    (htemplate : template = front ++ c :: cs) (out : List Char) :
    renderLoop template vars (utf8Length front) out =
      renderLoop template vars (utf8Length (front ++ [c]))
        (out ++ (String.utf8EncodeChar c).map latin1) := by
  by_cases hc : c = '{'
  · subst hc
    -- an opening brace that nothing closes
    have hopen : '}' ∉ cs := fun hclose ↦ hother ⟨rfl, hclose⟩
    obtain ⟨hlt, hbyte⟩ := bytes_brace htemplate
    have hbrace : ('{').utf8Size = 1 := by decide
    have hnext : utf8Length (front ++ ['{']) = utf8Length front + 1 := by simp [hbrace]
    have hafter : sliceFrom template (utf8Length front + 1) = some cs := by
      rw [htemplate, ← hnext, ← List.singleton_append, ← List.append_assoc, sliceFrom_append]
    have hfind : find cs '}' = none := if_neg hopen
    rw [renderLoop, dif_pos hlt, if_pos hbyte]
    simp only [hafter, hfind]
    rw [hnext, utf8EncodeChar_of_ascii (by decide), hbyte]
    rfl
  · have hbytes : bytes template = bytes front ++ (String.utf8EncodeChar c ++ bytes cs) := by
      rw [htemplate, bytes_append, bytes_cons]
    have hcopied : renderLoop template vars (bytes front).length out = _ :=
      renderLoop_copies hbytes (fun b hb hbrace ↦ hc (eq_of_mem (by decide) (hbrace ▸ hb))) out
    rw [length_bytes, String.length_utf8EncodeChar] at hcopied
    rw [hcopied]
    simp

/-- The loop never panics: it appends what belongs to each part of the rest. -/
theorem renderLoop_eq (back front out : List Char) :
    renderLoop (front ++ back) vars (utf8Length front) out =
      some (out ++ (pieces back).flatMap (Piece.appended vars)) := by
  induction back using pieces.induct generalizing front out with
  | case1 =>
    rw [renderLoop, dif_neg]
    · simp [pieces]
    · simp [length_bytes]
  | case2 c cs hplaceholder ih =>
    obtain ⟨rfl, hclose⟩ := hplaceholder
    rw [renderLoop_placeholder hclose rfl, pieces, if_pos ⟨rfl, hclose⟩, List.flatMap_cons,
      ← List.append_assoc]
    have hrest := ih (front ++ '{' :: (cs.takeWhile (· ≠ '}') ++ ['}']))
      (out ++ substituted vars (cs.takeWhile (· ≠ '}')))
    have hwhole : front ++ '{' :: (cs.takeWhile (· ≠ '}') ++ ['}']) ++
        (cs.dropWhile (· ≠ '}')).tail = front ++ '{' :: cs := by
      conv_rhs => rw [← around_of_mem hclose]
      simp
    rw [hwhole] at hrest
    exact hrest
  | case3 c cs hother ih =>
    rw [renderLoop_char hother rfl, pieces, if_neg hother, List.flatMap_cons, ← List.append_assoc]
    have hrest := ih (front ++ [c]) (out ++ (String.utf8EncodeChar c).map latin1)
    rw [List.append_assoc, List.singleton_append] at hrest
    exact hrest

end Loop

/-- `render` ends, without a panic, in what it appends for the parts. -/
theorem render_eq (template : String) (vars : List (String × String)) :
    render template vars =
      some (String.ofList ((pieces template.toList).flatMap (Piece.appended vars))) := by
  have hloop : renderLoop ([] ++ template.toList) vars (utf8Length []) [] = _ :=
    renderLoop_eq template.toList [] []
  rw [List.nil_append, List.nil_append, utf8Length_nil] at hloop
  rw [render, hloop, Option.map_some]

/-! ## When it is exact -/

section Exact

variable {vars : List (String × String)}

theorem length_expanded_le (piece : Piece) :
    (piece.expanded vars).length ≤ (piece.appended vars).length := by
  cases piece with
  | char c =>
    rw [Piece.appended, List.length_map, String.length_utf8EncodeChar]
    exact c.utf8Size_pos
  | placeholder key => exact le_refl _

/-- A character that is not ASCII is more than one byte. -/
theorem one_lt_utf8Size {c : Char} (h : 128 ≤ c.toNat) : 1 < c.utf8Size := by
  by_contra hsize
  have hone : c.utf8Size = 1 := by
    have hpos := c.utf8Size_pos
    omega
  rw [Char.utf8Size_eq_one_iff, UInt32.le_iff_toNat_le] at hone
  exact absurd h (Nat.not_le.mpr (Nat.lt_succ_of_le hone))

/-- A character that is not ASCII makes the text longer. -/
theorem length_lt_of_mem {parts : List Piece} {c : Char} (hc : 128 ≤ c.toNat)
    (hmem : .char c ∈ parts) :
    (parts.flatMap (Piece.expanded vars)).length <
      (parts.flatMap (Piece.appended vars)).length := by
  induction parts with
  | nil => cases hmem
  | cons piece parts ih =>
    have hfirst : (piece.expanded vars).length ≤ (piece.appended vars).length :=
      length_expanded_le piece
    have hrest : (parts.flatMap (Piece.expanded vars)).length ≤
        (parts.flatMap (Piece.appended vars)).length := by
      rw [List.length_flatMap, List.length_flatMap]
      exact List.sum_le_sum fun piece _ ↦ length_expanded_le piece
    rw [List.flatMap_cons, List.flatMap_cons, List.length_append, List.length_append]
    rcases List.mem_cons.mp hmem with hpiece | hlater
    · subst hpiece
      have hmore : (Piece.expanded vars (.char c)).length <
          (Piece.appended vars (.char c)).length := by
        rw [Piece.appended, List.length_map, String.length_utf8EncodeChar]
        exact one_lt_utf8Size hc
      omega
    · have hless := ih hlater
      omega

theorem appended_eq_expanded {piece : Piece} (h : ∀ c, piece = .char c → c.toNat < 128) :
    piece.appended vars = piece.expanded vars := by
  cases piece with
  | char c => exact latin1_of_ascii (h c rfl)
  | placeholder key => rfl

theorem exact_of_ascii {template : String}
    (h : ∀ c, .char c ∈ pieces template.toList → c.toNat < 128) :
    render template vars = some (rendered template vars) := by
  rw [render_eq, rendered, List.flatMap_def, List.flatMap_def]
  congr 3
  apply List.map_congr_left
  intro piece hpiece
  apply appended_eq_expanded
  rintro c rfl
  exact h c hpiece

theorem ascii_of_exact {template : String} {c : Char}
    (h : render template vars = some (rendered template vars))
    (hmem : .char c ∈ pieces template.toList) : c.toNat < 128 := by
  rw [render_eq, rendered, Option.some.injEq, String.ofList_inj] at h
  by_contra hc
  have hlonger : ((pieces template.toList).flatMap (Piece.expanded vars)).length < _ :=
    length_lt_of_mem (Nat.le_of_not_lt hc) hmem
  rw [h] at hlonger
  exact lt_irrefl _ hlonger

end Exact

/-- `render` returns the rendered template if and only if the template is ASCII outside of its
placeholders. -/
theorem render_exact_iff (template : String) (vars : List (String × String)) :
    render template vars = some (rendered template vars) ↔
      ∀ c, .char c ∈ pieces template.toList → c.toNat < 128 :=
  ⟨fun h _ hmem ↦ ascii_of_exact h hmem, exact_of_ascii⟩

/-- The Chinese title of the reply prompt is garbled. -/
theorem chinese_title_is_garbled : ¬ ∀ (template : String) (vars : List (String × String)),
    render template vars = some (rendered template vars) := by
  intro h
  have hmem : .char '回' ∈ pieces ("回复 {address}").toList := by
    rw [String.toList_ofList, pieces, if_neg (by decide)]
    exact List.mem_cons_self ..
  exact absurd (ascii_of_exact (h "回复 {address}" [("address", "10086")]) hmem) (by decide)

end PhoneBridge.DeskDisplay
