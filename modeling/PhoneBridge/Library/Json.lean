import Mathlib.Data.List.Basic

/-!
# JSON values

The value a JSON text denotes. Integer literals are kept as integers; every other number (a
fraction, an exponent) keeps its literal. The fields of an object have pairwise different names, as
a parser that keeps the last occurrence of a name leaves them.
-/

namespace PhoneBridge.Library

/-- A JSON value. -/
inductive Json
  | null
  | bool (b : Bool)
  | int (n : Int)
  | float (literal : String)
  | str (s : String)
  | arr (items : List Json)
  | obj (fields : List (String × Json))
  deriving Repr, Inhabited

namespace Json

/-- The value of a field of an object; `none` for a missing field and for any other value. -/
def get : Json → String → Option Json
  | .obj fields, name => fields.lookup name
  | _, _ => none

/-- The text of a string value. -/
def asStr : Json → Option String
  | .str s => some s
  | _ => none

/-- The value of a boolean. -/
def asBool : Json → Option Bool
  | .bool b => some b
  | _ => none

/-- The object of the present fields: an absent optional field leaves no trace. -/
def objSkipNone (fields : List (String × Option Json)) : Json :=
  .obj (fields.filterMap fun field ↦ field.2.map (field.1, ·))

@[simp]
theorem get_obj (fields : List (String × Json)) (name : String) :
    (Json.obj fields).get name = fields.lookup name := rfl

theorem lookup_filterMap_of_notMem {fields : List (String × Option Json)} {name : String}
    (h : name ∉ fields.map Prod.fst) :
    (fields.filterMap fun field ↦ field.2.map (field.1, ·)).lookup name = none := by
  rw [List.lookup_eq_none_iff]
  intro pair hpair
  obtain ⟨⟨other, value⟩, hmem, hvalue⟩ := List.mem_filterMap.mp hpair
  obtain ⟨json, -, rfl⟩ := Option.map_eq_some_iff.mp hvalue
  have hne : name ≠ other := fun heq ↦ h (heq ▸ List.mem_map_of_mem hmem)
  simpa using hne

/-- Looking a name up among the present fields finds its value, if it has one. -/
theorem lookup_filterMap {fields : List (String × Option Json)} (name : String)
    (hnodup : (fields.map Prod.fst).Nodup) :
    (fields.filterMap fun field ↦ field.2.map (field.1, ·)).lookup name =
      (fields.lookup name).join := by
  induction fields with
  | nil => rfl
  | cons field fields ih =>
    obtain ⟨other, value⟩ := field
    rw [List.map_cons, List.nodup_cons] at hnodup
    have htail := ih hnodup.2
    by_cases hname : name = other
    · subst hname
      cases value with
      | none => simpa using lookup_filterMap_of_notMem hnodup.1
      | some json => simp
    · have hbeq : (name == other) = false := by simpa using hname
      cases value with
      | none => simpa [List.lookup_cons, hbeq] using htail
      | some json => simpa [List.lookup_cons, hbeq] using htail

end Json

end PhoneBridge.Library
