import PhoneBridge.Library.Json
import PhoneBridge.Library.Uuid

/-!
# JSON schemas

The keywords of a schema language as decidable conditions on a value. A keyword about strings or
numbers accepts every value of another kind, and a schema is the conjunction of its keywords. Object
schemas are kept as data: which of several of them can accept an object is decided by the names of
its fields alone.
-/

namespace PhoneBridge.Library

/-- A schema accepts the values that are valid under it. -/
abbrev JsonSchema := Json → Bool

namespace JsonSchema

/-! ## Keywords -/

/-- Every one of the keywords of a schema. -/
def allOf (schemas : List JsonSchema) : JsonSchema := fun json ↦ schemas.all (· json)

/-- Exactly one of the schemas. -/
def oneOf (schemas : List JsonSchema) : JsonSchema := fun json ↦ schemas.countP (· json) == 1

/-- The keywords `if` and `then`. -/
def ifThen (condition consequence : JsonSchema) : JsonSchema := fun json ↦
  !condition json || consequence json

def typeString : JsonSchema
  | .str _ => true
  | _ => false

/-- An integer literal; a fraction of value zero is not considered. -/
def typeInteger : JsonSchema
  | .int _ => true
  | _ => false

def typeBoolean : JsonSchema
  | .bool _ => true
  | _ => false

def typeArray : JsonSchema
  | .arr _ => true
  | _ => false

/-- `enum` over strings; `const` is the case of one value. -/
def enumStr (values : List String) : JsonSchema
  | .str s => values.contains s
  | _ => false

/-- `enum` over integers; `const` is the case of one value. -/
def enumInt (values : List Int) : JsonSchema
  | .int n => values.contains n
  | _ => false

/-- The length of a string counts its code points. -/
def minLength (low : Nat) : JsonSchema
  | .str s => decide (low ≤ s.length)
  | _ => true

def maxLength (high : Nat) : JsonSchema
  | .str s => decide (s.length ≤ high)
  | _ => true

def minimum (low : Int) : JsonSchema
  | .int n => decide (low ≤ n)
  | _ => true

def maximum (high : Int) : JsonSchema
  | .int n => decide (n ≤ high)
  | _ => true

def items (schema : JsonSchema) : JsonSchema
  | .arr values => values.all schema
  | _ => true

/-- The value of one property. -/
def property (name : String) (schema : JsonSchema) : JsonSchema := fun json ↦
  (json.get name).all schema

/-! ## Patterns of fixed length -/

/-- The characters between two others. -/
def between (low high : Char) : Char → Bool := fun c ↦ decide (low ≤ c ∧ c ≤ high)

/-- Each character is of the class at its position. -/
def fits : List (Char → Bool) → List Char → Bool
  | [], [] => true
  | cls :: classes, c :: cs => cls c && fits classes cs
  | _, _ => false

/-- An anchored pattern that is a sequence of character classes. -/
def pattern (classes : List (Char → Bool)) : JsonSchema
  | .str s => fits classes s.toList
  | _ => true

theorem fits_nil_left {cs : List Char} : fits [] cs = true ↔ cs = [] := by
  cases cs <;> simp [fits]

theorem fits_cons_left {cls : Char → Bool} {classes : List (Char → Bool)} {cs : List Char} :
    fits (cls :: classes) cs = true ↔
      ∃ c rest, cs = c :: rest ∧ cls c = true ∧ fits classes rest = true := by
  cases cs with
  | nil => simp [fits]
  | cons c rest => simp [fits]

/-- A text fits two patterns in a row when it falls into two parts that fit them. -/
theorem fits_append {front back : List (Char → Bool)} {cs : List Char} :
    fits (front ++ back) cs = true ↔
      ∃ xs ys, cs = xs ++ ys ∧ fits front xs = true ∧ fits back ys = true := by
  induction front generalizing cs with
  | nil => simp [fits_nil_left]
  | cons cls front ih =>
    rw [List.cons_append, fits_cons_left]
    constructor
    · rintro ⟨c, rest, rfl, hc, hrest⟩
      obtain ⟨xs, ys, rfl, hxs, hys⟩ := ih.mp hrest
      exact ⟨c :: xs, ys, rfl, fits_cons_left.mpr ⟨c, xs, rfl, hc, hxs⟩, hys⟩
    · rintro ⟨xs, ys, rfl, hxs, hys⟩
      obtain ⟨c, rest, rfl, hc, hrest⟩ := fits_cons_left.mp hxs
      exact ⟨c, rest ++ ys, rfl, hc, ih.mpr ⟨rest, ys, rfl, hrest, hys⟩⟩

theorem fits_replicate {cls : Char → Bool} {n : Nat} {cs : List Char} :
    fits (List.replicate n cls) cs = true ↔ cs.length = n ∧ ∀ c ∈ cs, cls c = true := by
  induction n generalizing cs with
  | zero => simp +contextual [fits_nil_left, List.length_eq_zero_iff]
  | succ n ih =>
    rw [List.replicate_succ, fits_cons_left]
    cases cs with
    | nil => simp
    | cons c rest => simp [ih, and_left_comm]

/-! ## The format of a UUID -/

/-- A hexadecimal digit of either case. -/
def hexDigit (c : Char) : Bool := between '0' '9' c || between 'a' 'f' c || between 'A' 'F' c

/-- Groups of digits of the given sizes, each followed by a hyphen, and a last group. -/
def hyphenated (sizes : List Nat) (last : Nat) : List (Char → Bool) :=
  sizes.flatMap (fun size ↦ List.replicate size hexDigit ++ [(· == '-')]) ++
    List.replicate last hexDigit

/-- The text without the URN prefix, which is written in either case. -/
def dropUrn (cs : List Char) : List Char :=
  if (cs.take 9).map Char.toLower = "urn:uuid:".toList then cs.drop 9 else cs

/-- The textual form that `format: uuid` asks for. -/
def IsUuid (s : String) : Prop := fits (hyphenated [8, 4, 4, 4] 12) (dropUrn s.toList) = true

instance (s : String) : Decidable (IsUuid s) :=
  decidable_of_iff (fits (hyphenated [8, 4, 4, 4] 12) (dropUrn s.toList) = true) Iff.rfl

def formatUuid : JsonSchema
  | .str s => decide (IsUuid s)
  | _ => true

theorem fits_hyphenate {sizes : List Nat} {last : Nat} {cs : List Char}
    (hlength : cs.length = sizes.sum + last) (hdigits : ∀ c ∈ cs, hexDigit c = true) :
    fits (hyphenated sizes last) (Uuid.hyphenate sizes cs) = true := by
  induction sizes generalizing cs with
  | nil => simpa [hyphenated, Uuid.hyphenate, fits_replicate] using ⟨by simpa using hlength, hdigits⟩
  | cons size sizes ih =>
    rw [List.sum_cons] at hlength
    have hrest : fits (hyphenated sizes last) (Uuid.hyphenate sizes (cs.drop size)) = true := by
      apply ih
      · rw [List.length_drop]
        omega
      · exact fun c hc ↦ hdigits c (List.mem_of_mem_drop hc)
    have hgroup : fits (List.replicate size hexDigit) (cs.take size) = true := by
      rw [fits_replicate]
      constructor
      · rw [List.length_take]
        omega
      · exact fun c hc ↦ hdigits c (List.mem_of_mem_take hc)
    have hsplit : hyphenated (size :: sizes) last =
        List.replicate size hexDigit ++ ((· == '-') :: hyphenated sizes last) := by
      simp [hyphenated]
    rw [hsplit, fits_append]
    exact ⟨cs.take size, '-' :: Uuid.hyphenate sizes (cs.drop size), rfl, hgroup,
      fits_cons_left.mpr ⟨'-', _, rfl, rfl, hrest⟩⟩

theorem hexDigit_lower {n : Nat} (h : n < 16) : hexDigit (Hex.lower n) = true := by
  interval_cases n <;> decide

theorem hexDigit_of_mem_digits {n width : Nat} {c : Char} (h : c ∈ Hex.digits Hex.lower n width) :
    hexDigit c = true := by
  obtain ⟨value, hvalue, rfl⟩ := Hex.exists_of_mem_digits h
  exact hexDigit_lower hvalue

theorem between_iff {low high c : Char} :
    between low high c = true ↔ low.toNat ≤ c.toNat ∧ c.toNat ≤ high.toNat := by
  rw [between, decide_eq_true_iff]
  exact Iff.rfl

/-- No digit is the first letter of the URN prefix. -/
theorem toLower_ne_of_hexDigit {c : Char} (h : hexDigit c = true) : c.toLower ≠ 'u' := by
  simp only [hexDigit, Bool.or_eq_true, between_iff, Char.reduceToNat] at h
  rw [← Char.ofNat_toNat c]
  generalize c.toNat = n at h
  obtain (⟨hlow, hhigh⟩ | ⟨hlow, hhigh⟩) | ⟨hlow, hhigh⟩ := h
  · interval_cases n <;> decide
  · interval_cases n <;> decide
  · interval_cases n <;> decide

/-- The canonical text of an identifier has the form. -/
@[simp]
theorem isUuid_toText (u : Uuid) : IsUuid u.toText := by
  have hlength : u.simpleDigits.length = [8, 4, 4, 4].sum + 12 := Hex.length_digits _ _ _
  have hdigits : ∀ c ∈ u.simpleDigits, hexDigit c = true := fun c hc ↦ hexDigit_of_mem_digits hc
  have hfits : fits (hyphenated [8, 4, 4, 4] 12) u.toText.toList = true := by
    rw [Uuid.toText, String.toList_ofList]
    exact fits_hyphenate hlength hdigits
  obtain ⟨first, rest, htext, hfirst, -⟩ := fits_cons_left.mp hfits
  have hkept : dropUrn u.toText.toList = u.toText.toList := by
    apply if_neg
    intro hurn
    rw [htext] at hurn
    exact toLower_ne_of_hexDigit hfirst (List.cons.inj hurn).1
  rw [IsUuid, hkept]
  exact hfits

end JsonSchema

/-! ## Object schemas -/

/-- What a schema says about the fields of an object. -/
structure ObjectSchema where
  required : List String := []
  properties : List (String × JsonSchema) := []
  additionalProperties : Bool := true

namespace ObjectSchema

open JsonSchema

/-- The names of an object's fields are ones that the schema can accept. -/
def admits (schema : ObjectSchema) (names : List String) : Bool :=
  schema.required.all (names.contains ·) &&
    (schema.additionalProperties || names.all fun name ↦ (schema.properties.lookup name).isSome)

/-- The values of the known fields are valid. -/
def values (schema : ObjectSchema) (fields : List (String × Json)) : Bool :=
  fields.all fun field ↦ (schema.properties.lookup field.1).all (· field.2)

/-- The schema `type: object` with these keywords. -/
def accepts (schema : ObjectSchema) : JsonSchema
  | .obj fields => schema.admits (fields.map Prod.fst) && schema.values fields
  | _ => false

theorem accepts_obj (schema : ObjectSchema) (fields : List (String × Json)) :
    schema.accepts (.obj fields) = (schema.admits (fields.map Prod.fst) && schema.values fields) :=
  rfl

/-- Among object schemas, the names of the fields single out the ones that are left to be tried. -/
theorem countP_accepts (schemas : List ObjectSchema) (fields : List (String × Json)) :
    (schemas.map accepts).countP (· (.obj fields)) =
      (schemas.filter (·.admits (fields.map Prod.fst))).countP (·.values fields) := by
  rw [List.countP_map, List.countP_filter]
  apply List.countP_congr
  intro schema _
  simp [accepts_obj, and_comm]

section OneOf

variable {schemas : List ObjectSchema} {fields : List (String × Json)}

/-- A schema that alone admits the names decides. -/
theorem oneOf_of_unique {schema : ObjectSchema}
    (h : schemas.filter (·.admits (fields.map Prod.fst)) = [schema]) :
    oneOf (schemas.map accepts) (.obj fields) = schema.values fields := by
  rw [oneOf, countP_accepts, h]
  cases hvalues : schema.values fields <;> simp [hvalues]

/-- Without a schema that admits the names, nothing is valid. -/
theorem oneOf_of_unadmitted (h : schemas.filter (·.admits (fields.map Prod.fst)) = []) :
    oneOf (schemas.map accepts) (.obj fields) = false := by
  rw [oneOf, countP_accepts, h]
  rfl

/-- Two schemas that admit the names and agree on the values leave nothing valid. -/
theorem oneOf_of_twin {first second : ObjectSchema}
    (h : [first, second].Sublist (schemas.filter (·.admits (fields.map Prod.fst))))
    (hvalues : first.values fields = true) (hsame : second.values fields = true) :
    oneOf (schemas.map accepts) (.obj fields) = false := by
  have hcount : 2 ≤ (schemas.map accepts).countP (· (.obj fields)) := by
    rw [countP_accepts]
    calc
      2 = [first, second].countP (·.values fields) := by simp [hvalues, hsame]
      _ ≤ _ := h.countP_le
  rw [oneOf, beq_eq_false_iff_ne]
  omega

end OneOf

end ObjectSchema

end PhoneBridge.Library
