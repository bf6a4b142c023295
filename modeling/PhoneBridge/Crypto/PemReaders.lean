import PhoneBridge.Crypto.Pem
import PhoneBridge.Library.Result

/-!
# The two PEM readers

Both readers decode the text that their boundaries enclose. A line that has a boundary in it without
being one is a boundary for `pem_to_der` only, so the readers may enclose different text. They agree
where no such line comes before the end of the certificate, in particular on what a PEM writer
writes.
-/

namespace PhoneBridge.Crypto

open Library

/-! ## Enclosed text -/

section Enclosed

variable (isBegin isEnd : List Char → Bool)

/-- The text between the first boundary and the next end of a block. -/
def enclosed (lines : List (List Char)) : List Char :=
  (((lines.takeWhile fun line ↦ isBegin line || !isEnd line).dropWhile fun line ↦
    !isBegin line).filter fun line ↦ !isBegin line).flatten

variable {isBegin isEnd}

theorem blockText_inside (lines : List (List Char)) :
    blockText isBegin isEnd true lines = ((lines.takeWhile fun line ↦
      isBegin line || !isEnd line).filter fun line ↦ !isBegin line).flatten := by
  induction lines with
  | nil => rfl
  | cons line lines ih =>
    cases hbegin : isBegin line with
    | true => simp [blockText, hbegin, ih]
    | false => cases hend : isEnd line <;> simp [blockText, hbegin, hend, ih]

theorem blockText_eq_enclosed (lines : List (List Char)) :
    blockText isBegin isEnd false lines = enclosed isBegin isEnd lines := by
  induction lines with
  | nil => rfl
  | cons line lines ih =>
    cases hbegin : isBegin line with
    | true => simp [blockText, enclosed, hbegin, blockText_inside]
    | false =>
      cases hend : isEnd line with
      | true => simp [blockText, enclosed, hbegin, hend]
      | false =>
        rw [blockText, if_neg (by simp [hbegin]), if_neg (by simp [hend]), if_neg (by simp), ih]
        simp [enclosed, hbegin, hend]

/-- A block can be read when its text is that of some bytes. -/
theorem readBlock_eq_ok {pem : String} {der : List UInt8} :
    readBlock isBegin isEnd pem = .ok der ↔
      der ≠ [] ∧ enclosed isBegin isEnd (Text.trimmedLines pem) = Base64.encodeStandard der := by
  simp only [readBlock, blockText_eq_enclosed]
  generalize enclosed isBegin isEnd (Text.trimmedLines pem) = text
  constructor
  · intro h
    split_ifs at h with hempty
    split at h
    · next hdecode =>
      cases h
      have hback := Base64.encodeStandard_of_decodeStandard hdecode
      refine ⟨?_, hback.symm⟩
      rintro rfl
      exact hempty (hback.symm.trans (Base64.encodeStandard_eq_nil.mpr rfl))
    · cases h
  · rintro ⟨hne, rfl⟩
    rw [if_neg (Base64.encodeStandard_eq_nil.not.mpr hne)]
    simp

/-- Tests that agree on the lines before the first end enclose the same text. -/
theorem enclosed_congr {isBegin' isEnd' : List Char → Bool} {lines : List (List Char)}
    (hend : ∀ line, isEnd line = true →
      isBegin line = false ∧ isBegin' line = false ∧ isEnd' line = true)
    (h : ∀ line ∈ lines.takeWhile fun line ↦ !isEnd line,
      isBegin' line = isBegin line ∧ isEnd' line = isEnd line) :
    enclosed isBegin' isEnd' lines = enclosed isBegin isEnd lines := by
  rw [← blockText_eq_enclosed, ← blockText_eq_enclosed]
  generalize false = inBlock
  induction lines generalizing inBlock with
  | nil => rfl
  | cons line lines ih =>
    cases hline : isEnd line with
    | true =>
      obtain ⟨hbegin, hbegin', hend'⟩ := hend line hline
      simp [blockText, hline, hbegin, hbegin', hend']
    | false =>
      rw [List.takeWhile_cons_of_pos (by simp [hline]), List.forall_mem_cons] at h
      obtain ⟨⟨hbegin, hsame⟩, hlines⟩ := h
      simp only [blockText, hbegin, hsame, ih hlines]

end Enclosed

/-! ## Agreement -/

def beginLine : List Char := "-----BEGIN CERTIFICATE-----".toList

def endLine : List Char := "-----END CERTIFICATE-----".toList

/-- Does a line have a mark in it? -/
def hasMark (mark : String) (line : List Char) : Bool := Text.contains (String.ofList line) mark

/-- The text between boundaries that are whole lines. -/
def wholeLineText (pem : String) : List Char :=
  enclosed (· = beginLine) (· = endLine) (Text.trimmedLines pem)

/-- The text between boundaries that are parts of lines. -/
def partLineText (pem : String) : List Char :=
  enclosed (hasMark "BEGIN CERTIFICATE") (hasMark "END CERTIFICATE") (Text.trimmedLines pem)

/-- A line that is a boundary for one of the readers only. -/
def IsStray (line : List Char) : Prop :=
  hasMark "BEGIN CERTIFICATE" line = true ∧ line ≠ beginLine ∨
    hasMark "END CERTIFICATE" line = true ∧ line ≠ endLine

/-- Both readers fail, or both return the same bytes. -/
def ReadersAgree (pem : String) : Prop :=
  (pemBody pem "CERTIFICATE").toOption = (pemToDer pem).toOption

section Readers

variable {pem : String} {der : List UInt8}

theorem pemBody_eq_ok : pemBody pem "CERTIFICATE" = .ok der ↔
    der ≠ [] ∧ wholeLineText pem = Base64.encodeStandard der :=
  readBlock_eq_ok

theorem pemToDer_eq_ok : pemToDer pem = .ok der ↔
    der ≠ [] ∧ partLineText pem = Base64.encodeStandard der :=
  readBlock_eq_ok

theorem readersAgree_iff_forall : ReadersAgree pem ↔
    ∀ der, pemBody pem "CERTIFICATE" = .ok der ↔ pemToDer pem = .ok der := by
  rw [ReadersAgree, Option.ext_iff]
  simp only [toOption_eq_some]

variable (pem) in
/-- The readers agree exactly when their boundaries enclose the same text, or no text of bytes. -/
theorem readers_agree_iff : ReadersAgree pem ↔
    wholeLineText pem = partLineText pem ∨ ∀ der, der ≠ [] →
      wholeLineText pem ≠ Base64.encodeStandard der ∧
        partLineText pem ≠ Base64.encodeStandard der := by
  rw [readersAgree_iff_forall]
  simp only [pemBody_eq_ok, pemToDer_eq_ok]
  constructor
  · intro h
    by_cases hsome : ∃ der, der ≠ [] ∧ wholeLineText pem = Base64.encodeStandard der
    · obtain ⟨der, hne, hwhole⟩ := hsome
      have hpart := ((h der).mp ⟨hne, hwhole⟩).2
      exact .inl (hwhole.trans hpart.symm)
    · refine .inr fun der hne ↦ ⟨fun hwhole ↦ hsome ⟨der, hne, hwhole⟩, fun hpart ↦ ?_⟩
      exact hsome ⟨der, (h der).mpr ⟨hne, hpart⟩⟩
  · rintro (hsame | hnone) der
    · rw [hsame]
    · constructor
      · rintro ⟨hne, hwhole⟩
        exact absurd hwhole (hnone der hne).1
      · rintro ⟨hne, hpart⟩
        exact absurd hpart (hnone der hne).2

theorem hasMark_eq (mark : String) (line : List Char) :
    hasMark mark line = decide (mark.toList <:+: line) := by
  rw [hasMark, Text.contains, String.toList_ofList]

theorem hasMark_iff {mark : String} {line : List Char} :
    hasMark mark line = true ↔ mark.toList <:+: line := by
  rw [hasMark_eq, decide_eq_true_iff]

theorem toList_beginMark : "BEGIN CERTIFICATE".toList =
    ['B', 'E', 'G', 'I', 'N', ' ', 'C', 'E', 'R', 'T', 'I', 'F', 'I', 'C', 'A', 'T', 'E'] :=
  String.toList_ofList

theorem toList_endMark : "END CERTIFICATE".toList =
    ['E', 'N', 'D', ' ', 'C', 'E', 'R', 'T', 'I', 'F', 'I', 'C', 'A', 'T', 'E'] :=
  String.toList_ofList

theorem toList_beginLine : beginLine =
    ['-', '-', '-', '-', '-', 'B', 'E', 'G', 'I', 'N', ' ', 'C', 'E', 'R', 'T', 'I', 'F', 'I', 'C',
      'A', 'T', 'E', '-', '-', '-', '-', '-'] :=
  String.toList_ofList

theorem toList_endLine : endLine =
    ['-', '-', '-', '-', '-', 'E', 'N', 'D', ' ', 'C', 'E', 'R', 'T', 'I', 'F', 'I', 'C', 'A', 'T',
      'E', '-', '-', '-', '-', '-'] :=
  String.toList_ofList

theorem hasMark_beginLine : hasMark "BEGIN CERTIFICATE" beginLine = true ∧
    hasMark "END CERTIFICATE" beginLine = false := by
  rw [hasMark_eq, hasMark_eq, toList_beginMark, toList_endMark, toList_beginLine]
  decide

theorem hasMark_endLine : hasMark "BEGIN CERTIFICATE" endLine = false ∧
    hasMark "END CERTIFICATE" endLine = true := by
  rw [hasMark_eq, hasMark_eq, toList_beginMark, toList_endMark, toList_endLine]
  decide

theorem beginLine_ne_endLine : beginLine ≠ endLine := by
  rw [toList_beginLine, toList_endLine]
  decide

/-- Without a stray line before the end the boundaries enclose the same text. -/
theorem partLineText_of_no_stray
    (h : ∀ line ∈ (Text.trimmedLines pem).takeWhile fun line ↦ !decide (line = endLine),
      ¬ IsStray line) :
    partLineText pem = wholeLineText pem := by
  apply enclosed_congr
  · intro line hline
    obtain rfl := of_decide_eq_true hline
    exact ⟨decide_eq_false beginLine_ne_endLine.symm, hasMark_endLine⟩
  · intro line hline
    have hplain := h line hline
    rw [IsStray, not_or, not_and, not_and, not_not, not_not] at hplain
    have hne : line ≠ endLine := by simpa using List.mem_takeWhile_imp hline
    constructor
    · rw [Bool.eq_iff_iff, decide_eq_true_iff]
      exact ⟨hplain.1, fun hline ↦ hline ▸ hasMark_beginLine.1⟩
    · rw [decide_eq_false hne, Bool.eq_false_iff]
      exact fun hmark ↦ hne (hplain.2 hmark)

/-- The readers agree on a text without a stray line before the end. -/
theorem readersAgree_of_no_stray
    (h : ∀ line ∈ (Text.trimmedLines pem).takeWhile fun line ↦ !decide (line = endLine),
      ¬ IsStray line) :
    ReadersAgree pem :=
  (readers_agree_iff pem).mpr (.inl (partLineText_of_no_stray h).symm)

end Readers

/-! ## What a PEM writer writes -/

/-- The Base64 text of some bytes in lines of any length. -/
structure Armor (der : List UInt8) where
  lines : List (List Char)
  flatten_lines : lines.flatten = Base64.encodeStandard der
  lineEnd : Text.LineEnd

namespace Armor

/-- The text in one line. -/
def inOneLine (lineEnd : Text.LineEnd) (der : List UInt8) : Armor der where
  lines := [Base64.encodeStandard der]
  flatten_lines := List.append_nil _
  lineEnd := lineEnd

variable {der : List UInt8} (armor : Armor der)

/-- The certificate as PEM text. -/
def text : String := Text.ofLines armor.lineEnd (beginLine :: armor.lines ++ [endLine])

theorem not_isWhiteSpace_of_mem {bs : List UInt8} {c : Char} (h : c ∈ Base64.encodeStandard bs) :
    Text.isWhiteSpace c = false ∧ c ≠ '-' := by
  rcases Base64.mem_encodeStandard h with rfl | ⟨n, hn, rfl⟩
  · decide
  · interval_cases n <;> decide

variable {armor} in
theorem clean_of_mem {line : List Char} (h : line ∈ armor.lines) :
    ∀ c ∈ line, Text.isWhiteSpace c = false ∧ c ≠ '-' := by
  intro c hc
  apply @not_isWhiteSpace_of_mem der
  rw [← armor.flatten_lines]
  exact List.mem_flatten_of_mem h hc

theorem trimmedLines_text :
    Text.trimmedLines armor.text = beginLine :: armor.lines ++ [endLine] ++ [[]] := by
  apply Text.trimmedLines_ofLines
  intro line hline
  rw [List.cons_append, List.mem_cons, List.mem_append, List.mem_singleton] at hline
  rcases hline with rfl | hline | rfl
  · rw [toList_beginLine]
    decide
  · have hclean := fun c hc ↦ (clean_of_mem hline c hc).1
    exact ⟨fun hbreak ↦ absurd (hclean _ hbreak) (by decide), Text.trimBy_of_clean hclean⟩
  · rw [toList_endLine]
    decide

variable {armor} in
/-- No line of the body is a boundary or has one in it. -/
theorem body_line {line : List Char} (h : line ∈ armor.lines) :
    line ≠ beginLine ∧ line ≠ endLine ∧ ¬ IsStray line := by
  have hclean := clean_of_mem h
  have hdash : '-' ∉ line := fun hmem ↦ (hclean _ hmem).2 rfl
  have hspace : ' ' ∉ line := fun hmem ↦ absurd (hclean _ hmem).1 (by decide)
  have hbegin : line ≠ beginLine := by
    rintro rfl
    exact hdash (by rw [toList_beginLine]; decide)
  have hend : line ≠ endLine := by
    rintro rfl
    exact hdash (by rw [toList_endLine]; decide)
  refine ⟨hbegin, hend, ?_⟩
  rintro (⟨hmark, -⟩ | ⟨hmark, -⟩)
  · exact hspace ((hasMark_iff.mp hmark).subset (by rw [toList_beginMark]; decide))
  · exact hspace ((hasMark_iff.mp hmark).subset (by rw [toList_endMark]; decide))

theorem takeWhile_lines : (Text.trimmedLines armor.text).takeWhile (fun line ↦
    !decide (line = endLine)) = beginLine :: armor.lines := by
  have hbefore : ∀ line ∈ beginLine :: armor.lines, (!decide (line = endLine)) = true := by
    intro line hline
    rcases List.mem_cons.mp hline with rfl | hline
    · simp [beginLine_ne_endLine]
    · simp [(body_line hline).2.1]
  rw [trimmedLines_text, List.append_assoc, List.takeWhile_append_of_pos hbefore,
    List.singleton_append, List.takeWhile_cons_of_neg (by simp), List.append_nil]

theorem wholeLineText_text : wholeLineText armor.text = Base64.encodeStandard der := by
  have hbody : ∀ line ∈ armor.lines, (!decide (line = beginLine)) = true :=
    fun line hline ↦ by simp [(body_line hline).1]
  have hbefore : ∀ line ∈ beginLine :: armor.lines,
      (decide (line = beginLine) || !decide (line = endLine)) = true := by
    intro line hline
    rcases List.mem_cons.mp hline with rfl | hline
    · simp
    · simp [(body_line hline).2.1]
  rw [wholeLineText, enclosed, trimmedLines_text, List.append_assoc,
    List.takeWhile_append_of_pos hbefore, List.singleton_append,
    List.takeWhile_cons_of_neg (by simp [beginLine_ne_endLine.symm]), List.append_nil,
    List.dropWhile_cons_of_neg (by simp), List.filter_cons_of_neg (by simp),
    List.filter_eq_self.mpr hbody, armor.flatten_lines]

/-- Both readers read what was written. -/
theorem readers_text (hne : der ≠ []) :
    pemBody armor.text "CERTIFICATE" = .ok der ∧ pemToDer armor.text = .ok der := by
  have hplain : partLineText armor.text = wholeLineText armor.text := by
    apply partLineText_of_no_stray
    rw [takeWhile_lines, List.forall_mem_cons]
    refine ⟨?_, fun line hline ↦ (body_line hline).2.2⟩
    simp [IsStray, hasMark_beginLine]
  rw [pemBody_eq_ok, pemToDer_eq_ok, hplain, wholeLineText_text]
  exact ⟨⟨hne, rfl⟩, hne, rfl⟩

end Armor

/-! ## A text with stray lines -/

def requestBegin : List Char := "-----BEGIN CERTIFICATE REQUEST-----".toList

def requestEnd : List Char := "-----END CERTIFICATE REQUEST-----".toList

/-- A certificate after a certificate request. -/
def requestFirst : String :=
  Text.ofLines .lf [requestBegin, ['M', 'A', 'I', 'F', 'A', 'A', '=', '='], requestEnd,
    beginLine, ['M', 'A', 'A', '='], endLine]

theorem toList_requestBegin : requestBegin =
    ['-', '-', '-', '-', '-', 'B', 'E', 'G', 'I', 'N', ' ', 'C', 'E', 'R', 'T', 'I', 'F', 'I', 'C',
      'A', 'T', 'E', ' ', 'R', 'E', 'Q', 'U', 'E', 'S', 'T', '-', '-', '-', '-', '-'] :=
  String.toList_ofList

theorem toList_requestEnd : requestEnd =
    ['-', '-', '-', '-', '-', 'E', 'N', 'D', ' ', 'C', 'E', 'R', 'T', 'I', 'F', 'I', 'C', 'A', 'T',
      'E', ' ', 'R', 'E', 'Q', 'U', 'E', 'S', 'T', '-', '-', '-', '-', '-'] :=
  String.toList_ofList

/-- One reader returns the certificate, the other one the request. -/
theorem readers_requestFirst : wholeLineText requestFirst = ['M', 'A', 'A', '='] ∧
    partLineText requestFirst = ['M', 'A', 'I', 'F', 'A', 'A', '=', '='] := by
  rw [wholeLineText, partLineText, requestFirst, Text.trimmedLines_ofLines]
  · simp only [toList_requestBegin, toList_requestEnd, toList_beginLine, toList_endLine]
    constructor
    · decide +kernel
    · simp only [funext (hasMark_eq _), toList_beginMark, toList_endMark]
      decide +kernel
  · simp only [toList_requestBegin, toList_requestEnd, toList_beginLine, toList_endLine]
    decide +kernel

/-- The readers disagree on a certificate after a certificate request. -/
theorem request_first_disagrees : ¬ ∀ pem, ReadersAgree pem := by
  intro h
  obtain ⟨hwhole, hpart⟩ := readers_requestFirst
  rcases (readers_agree_iff requestFirst).mp (h requestFirst) with hsame | hnone
  · rw [hwhole, hpart] at hsame
    exact absurd hsame (by decide)
  · exact (hnone [48, 0] (by decide)).1 (hwhole.trans (by decide))

end PhoneBridge.Crypto
