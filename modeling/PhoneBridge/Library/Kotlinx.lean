import PhoneBridge.Library.Json
import PhoneBridge.Library.Result

/-!
# Generated serializers over JSON elements

What a generated serializer of a data class writes and reads when defaults are encoded, nulls are
explicit and unknown keys are ignored. An element of another kind than the property asks for is
handed to the lexer of the JSON library (it reads numbers and booleans from quoted text as well),
which stays a parameter.
-/

namespace PhoneBridge.Library

/-- Why an element cannot be decoded. -/
inductive KotlinxError
  | unexpectedElement (expected : String)
  | outOfRange (expected : String)
  | missingKey (name : String)
  | unknownEntry (entry : String)
  deriving Repr, DecidableEq

namespace Kotlinx

/-- The parts of the JSON library that lie outside the integer and boolean literals. -/
structure Lexer where
  /-- The integer that a quoted literal, or one with a fraction or an exponent, denotes. -/
  integer : String → Option Int
  /-- The boolean that a quoted literal denotes. -/
  boolean : String → Option Bool
  /-- The message of the exception for a decoding error. -/
  message : KotlinxError → String

/-- A lexer for examples without quoted or fractional literals. -/
def sampleLexer : Lexer where
  integer := fun _ ↦ none
  boolean := fun _ ↦ none
  message := fun _ ↦ ""

/-- A decoder of `α`. -/
abbrev Decoder (α : Type) := Json → Except KotlinxError α

variable (lexer : Lexer)

def boolean : Decoder Bool
  | .bool b => .ok b
  | .str text =>
    match lexer.boolean text with
    | some b => .ok b
    | none => .error (.unexpectedElement "boolean")
  | _ => .error (.unexpectedElement "boolean")

def string : Decoder String
  | .str s => .ok s
  | _ => .error (.unexpectedElement "string")

/-- An integer literal between two bounds. -/
def integer (name : String) (low high : Int) : Decoder Int
  | .int n => ranged n
  | .float text | .str text =>
    match lexer.integer text with
    | some n => ranged n
    | none => .error (.unexpectedElement name)
  | _ => .error (.unexpectedElement name)
where
  ranged (n : Int) : Except KotlinxError Int :=
    if low ≤ n ∧ n ≤ high then .ok n else .error (.outOfRange name)

def int : Decoder Int32 := fun json ↦
  (integer lexer "int" (-2147483648) 2147483647 json).map Int32.ofInt

def long : Decoder Int64 := fun json ↦
  (integer lexer "long" (-9223372036854775808) 9223372036854775807 json).map Int64.ofInt

/-- The entry of an enumeration with a serial name. -/
def entry {α : Type} (entries : List (String × α)) : Decoder α
  | .str name =>
    match entries.lookup name with
    | some value => .ok value
    | none => .error (.unknownEntry name)
  | _ => .error (.unexpectedElement "enum")

/-- A list of elements. -/
def list {α : Type} (decode : Decoder α) : Decoder (List α)
  | .arr items => items.mapM decode
  | _ => .error (.unexpectedElement "list")

/-- The properties of a data class are read from an object. -/
def dataClass : Json → Except KotlinxError (String → Option Json)
  | .obj fields => .ok fun name ↦ fields.lookup name
  | _ => .error (.unexpectedElement "object")

section Properties

variable {α : Type} (read : String → Option Json) (name : String) (decode : Decoder α)

/-- A property without a default. -/
def property : Except KotlinxError α :=
  match read name with
  | some json => decode json
  | none => .error (.missingKey name)

/-- A nullable property whose default is null. -/
def nullable : Except KotlinxError (Option α) :=
  match read name with
  | none => .ok none
  | some .null => .ok none
  | some json => (decode json).map some

/-- A present element that may be null. -/
def nullOr : Decoder (Option α)
  | .null => .ok none
  | json => (decode json).map some

theorem property_eq_elim :
    property read name decode = (read name).elim (.error (.missingKey name)) decode := by
  unfold property
  cases read name <;> rfl

theorem nullable_eq_elim :
    nullable read name decode = (read name).elim (.ok none) (nullOr decode) := by
  unfold nullable nullOr
  cases read name with
  | none => rfl
  | some json => cases json <;> rfl

/-- A property with a default. -/
def defaulted (default : α) : Except KotlinxError α :=
  match read name with
  | some json => decode json
  | none => .ok default

end Properties

/-- A nullable value is written out, null included. -/
def encodeNullable {α : Type} (encode : α → Json) : Option α → Json
  | some value => encode value
  | none => .null

@[simp]
theorem boolean_bool (b : Bool) : boolean lexer (.bool b) = .ok b := rfl

@[simp]
theorem string_str (s : String) : string (.str s) = .ok s := rfl

@[simp]
theorem dataClass_obj (fields : List (String × Json)) :
    dataClass (.obj fields) = .ok fun name ↦ fields.lookup name := rfl

theorem integer_int (name : String) (low high n : Int) :
    integer lexer name low high (.int n) =
      if low ≤ n ∧ n ≤ high then .ok n else .error (.outOfRange name) := rfl

theorem integer_eq_ok {name : String} {low high n m : Int} :
    integer lexer name low high (.int n) = .ok m ↔ n = m ∧ low ≤ n ∧ n ≤ high := by
  rw [integer_int]
  split
  · next h => simp [h]
  · next h => simp only [reduceCtorEq, h, and_false]

theorem int_eq_ok {n : Int} {m : Int32} : int lexer (.int n) = .ok m ↔ n = m.toInt := by
  have hlow := m.le_toInt
  have hhigh := m.toInt_lt
  simp only [int, map_eq_ok, integer_eq_ok]
  constructor
  · rintro ⟨_, ⟨rfl, hn, hn'⟩, rfl⟩
    rw [Int32.toInt_ofInt_of_le (by omega) (by omega)]
  · intro h
    exact ⟨n, ⟨rfl, by omega, by omega⟩, by simp [h]⟩

theorem long_eq_ok {n : Int} {m : Int64} : long lexer (.int n) = .ok m ↔ n = m.toInt := by
  have hlow := m.le_toInt
  have hhigh := m.toInt_lt
  simp only [long, map_eq_ok, integer_eq_ok]
  constructor
  · rintro ⟨_, ⟨rfl, hn, hn'⟩, rfl⟩
    rw [Int64.toInt_ofInt_of_le (by omega) (by omega)]
  · intro h
    exact ⟨n, ⟨rfl, by omega, by omega⟩, by simp [h]⟩

@[simp]
theorem long_int (n : Int64) : long lexer (.int n.toInt) = .ok n := (long_eq_ok lexer).mpr rfl

@[simp]
theorem int_int (n : Int32) : int lexer (.int n.toInt) = .ok n := (int_eq_ok lexer).mpr rfl

end Kotlinx

end PhoneBridge.Library
