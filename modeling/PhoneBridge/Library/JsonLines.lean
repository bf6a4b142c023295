import PhoneBridge.Library.Text

/-!
# One value per line

A value is sent as the line that a serializer prints, and a reader takes the lines of a text apart,
trims them, passes over the blank ones and those that do not parse.
-/

namespace PhoneBridge.Library.JsonLines

variable {α ε : Type} {toStr : α → String} {fromStr : String → Except ε α} {a : α}

/-- The text of one value. -/
def line (toStr : α → String) (a : α) : String :=
  let line := toStr a
  s!"{line}\n"

/-- The values of a text; a line that is blank or does not parse is skipped. -/
def valuesOf (fromStr : String → Except ε α) (t : String) : List α :=
  (Text.trimmedLines t).filterMap fun line ↦
    if line = [] then none else (fromStr (String.ofList line)).toOption

/-- The value is printed on one line, without white space at its ends, and parsed from it. -/
structure ReadsBack (toStr : α → String) (fromStr : String → Except ε α) (a : α) : Prop where
  oneLine : '\n' ∉ (toStr a).toList
  bare : Text.trimBy Text.isWhiteSpace (toStr a).toList = (toStr a).toList
  parsed : (toStr a).toList ≠ [] ∧ fromStr (toStr a) = .ok a

/-- The text of a value has this value and no other. -/
theorem valuesOf_line (h : ReadsBack toStr fromStr a) : valuesOf fromStr (line toStr a) = [a] := by
  have htext : line toStr a = Text.ofLines .lf [(toStr a).toList] := by
    rw [line, Text.ofLines, ← String.toList_inj]
    simp [Text.LineEnd.chars, toString]
  have hlines : Text.trimmedLines (line toStr a) = [(toStr a).toList] ++ [[]] := by
    rw [htext]
    apply Text.trimmedLines_ofLines
    intro piece hpiece
    rw [List.mem_singleton.mp hpiece]
    exact ⟨h.oneLine, h.bare⟩
  rw [valuesOf, hlines]
  simp [h.parsed.1, h.parsed.2, Except.toOption]

/-- Several texts in a row. -/
theorem flatMap_valuesOf_line {values : List α} (h : ∀ a ∈ values, ReadsBack toStr fromStr a) :
    (values.map (line toStr)).flatMap (valuesOf fromStr) = values := by
  induction values with
  | nil => rfl
  | cons a values ih =>
    obtain ⟨hfirst, hrest⟩ := List.forall_mem_cons.mp h
    rw [List.map_cons, List.flatMap_cons, valuesOf_line hfirst, ih hrest, List.singleton_append]

end PhoneBridge.Library.JsonLines
