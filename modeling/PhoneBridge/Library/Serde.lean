import PhoneBridge.Library.Json
import PhoneBridge.Library.KeyMap
import PhoneBridge.Library.Result

/-!
# Derived deserializers over JSON values

What a derived deserializer for a record or an enumeration accepts. A record is read from an object
by field name or from an array by position; unknown fields are ignored; an optional field may be
missing or null. Numbers are range checked and never read from text or from a literal with a
fraction.
-/

namespace PhoneBridge.Library

/-- Why a value cannot be deserialized. -/
inductive SerdeError
  | invalidType (expected : String)
  | invalidValue (expected : String)
  | invalidLength (expected : Nat)
  | missingField (name : String)
  | unknownVariant (variant : String)
  deriving Repr, DecidableEq

/-- A type of unsigned integers: what it holds are the naturals below its size. -/
structure Unsigned (β : Type) where
  size : Nat
  toNat : β → Nat
  ofNat : Nat → β
  toNat_lt : ∀ b, toNat b < size
  ofNat_toNat : ∀ b, ofNat (toNat b) = b
  toNat_ofNat : ∀ n < size, toNat (ofNat n) = n

abbrev uint8 : Unsigned UInt8 where
  size := 256
  toNat := UInt8.toNat
  ofNat := UInt8.ofNat
  toNat_lt := UInt8.toNat_lt
  ofNat_toNat _ := by simp
  toNat_ofNat _ := UInt8.toNat_ofNat_of_lt'

abbrev uint16 : Unsigned UInt16 where
  size := 65536
  toNat := UInt16.toNat
  ofNat := UInt16.ofNat
  toNat_lt := UInt16.toNat_lt
  ofNat_toNat _ := by simp
  toNat_ofNat _ := UInt16.toNat_ofNat_of_lt'

abbrev uint32 : Unsigned UInt32 where
  size := 4294967296
  toNat := UInt32.toNat
  ofNat := UInt32.ofNat
  toNat_lt := UInt32.toNat_lt
  ofNat_toNat _ := by simp
  toNat_ofNat _ := UInt32.toNat_ofNat_of_lt'

namespace Serde

/-- A deserializer of `α`. -/
abbrev Decoder (α : Type) := Json → Except SerdeError α

def bool : Decoder Bool
  | .bool b => .ok b
  | _ => .error (.invalidType "a boolean")

def string : Decoder String
  | .str s => .ok s
  | _ => .error (.invalidType "a string")

/-- An integer literal between two bounds. -/
def integer (name : String) (low high : Int) : Decoder Int
  | .int n => if low ≤ n ∧ n ≤ high then .ok n else .error (.invalidValue name)
  | _ => .error (.invalidType name)

/-- An integer literal that an unsigned type can hold. -/
def unsigned {β : Type} (name : String) (type : Unsigned β) : Decoder β := fun json ↦
  (integer name 0 (type.size - 1) json).map fun n ↦ type.ofNat n.toNat

abbrev u8 : Decoder UInt8 := unsigned "u8" uint8

abbrev u16 : Decoder UInt16 := unsigned "u16" uint16

abbrev u32 : Decoder UInt32 := unsigned "u32" uint32

def i32 : Decoder Int32 := fun json ↦ (integer "i32" (-2147483648) 2147483647 json).map Int32.ofInt

def i64 : Decoder Int64 := fun json ↦
  (integer "i64" (-9223372036854775808) 9223372036854775807 json).map Int64.ofInt

/-- A sequence of values. -/
def sequence {α : Type} (decode : Decoder α) : Decoder (List α)
  | .arr items => items.mapM decode
  | _ => .error (.invalidType "a sequence")

/-- A map from texts; of two fields with one name the later one counts. -/
def map {α : Type} (decode : Decoder α) : Decoder (KeyMap String α)
  | .obj fields => fields.foldlM (fun m field ↦ (decode field.2).map (m.insert field.1)) .empty
  | _ => .error (.invalidType "a map")

/-- A variant without data: its name, or an object holding the name alone with a null value. -/
def unitVariant {α : Type} (variants : List (String × α)) : Decoder α
  | .str name => find name
  | .obj [(name, .null)] => find name
  | _ => .error (.invalidType "a variant name")
where
  find (name : String) : Except SerdeError α :=
    match variants.lookup name with
    | some value => .ok value
    | none => .error (.unknownVariant name)

/-- How the fields of a record with these names are read from a value. -/
def record (names : List String) (json : Json) : Except SerdeError (String → Option Json) :=
  match json with
  | .obj fields => .ok fun name ↦ fields.lookup name
  | .arr items =>
    if items.length ≤ names.length then .ok fun name ↦ (names.zip items).lookup name
    else .error (.invalidLength names.length)
  | _ => .error (.invalidType "a map")

section Fields

variable {α : Type} (read : String → Option Json) (name : String) (decode : Decoder α)

/-- A field that must be present. -/
def required : Except SerdeError α :=
  match read name with
  | some json => decode json
  | none => .error (.missingField name)

/-- A field that may be missing or null. -/
def optional : Except SerdeError (Option α) :=
  match read name with
  | none => .ok none
  | some .null => .ok none
  | some json => (decode json).map some

/-- A field with a default for when it is missing. -/
def defaulted (default : α) : Except SerdeError α :=
  match read name with
  | some json => decode json
  | none => .ok default

/-- A present value that may be null. -/
def nullOr : Decoder (Option α)
  | .null => .ok none
  | json => (decode json).map some

theorem required_eq_elim :
    required read name decode = (read name).elim (.error (.missingField name)) decode := by
  unfold required
  cases read name <;> rfl

theorem optional_eq_elim :
    optional read name decode = (read name).elim (.ok none) (nullOr decode) := by
  unfold optional nullOr
  cases read name with
  | none => rfl
  | some json => cases json <;> rfl

variable {read name decode}

@[simp]
theorem required_of_read {json : Json} (h : read name = some json) :
    required read name decode = decode json := by
  simp [required, h]

@[simp]
theorem optional_of_missing (h : read name = none) : optional read name decode = .ok none := by
  simp [optional, h]

@[simp]
theorem optional_of_null (h : read name = some .null) : optional read name decode = .ok none := by
  simp [optional, h]

@[simp]
theorem defaulted_of_read {json : Json} (default : α) (h : read name = some json) :
    defaulted read name decode default = decode json := by
  simp [defaulted, h]

end Fields

@[simp]
theorem bool_bool (b : Bool) : bool (.bool b) = .ok b := rfl

@[simp]
theorem string_str (s : String) : string (.str s) = .ok s := rfl

@[simp]
theorem record_obj (names : List String) (fields : List (String × Json)) :
    record names (.obj fields) = .ok fun name ↦ fields.lookup name := rfl

theorem integer_int (name : String) (low high n : Int) :
    integer name low high (.int n) =
      if low ≤ n ∧ n ≤ high then .ok n else .error (.invalidValue name) := rfl

theorem integer_eq_ok {name : String} {low high n m : Int} :
    integer name low high (.int n) = .ok m ↔ n = m ∧ low ≤ n ∧ n ≤ high := by
  rw [integer_int]
  split
  · next h => simp [h]
  · next h => simp only [reduceCtorEq, h, and_false]

theorem unsigned_eq_ok {β : Type} {name : String} {type : Unsigned β} {n : Int} {m : β} :
    unsigned name type (.int n) = .ok m ↔ n = type.toNat m := by
  simp only [unsigned, map_eq_ok, integer_eq_ok]
  constructor
  · rintro ⟨_, ⟨rfl, hlow, hhigh⟩, rfl⟩
    rw [type.toNat_ofNat _ (by omega)]
    omega
  · intro h
    have hlt := type.toNat_lt m
    exact ⟨n, ⟨rfl, by omega, by omega⟩, by rw [h, Int.toNat_natCast, type.ofNat_toNat]⟩

theorem u16_eq_ok {n : Int} {m : UInt16} : u16 (.int n) = .ok m ↔ n = m.toNat := unsigned_eq_ok

@[simp]
theorem u8_int (n : UInt8) : u8 (.int n.toNat) = .ok n := unsigned_eq_ok.mpr rfl

@[simp]
theorem u16_int (n : UInt16) : u16 (.int n.toNat) = .ok n := unsigned_eq_ok.mpr rfl

@[simp]
theorem u32_int (n : UInt32) : u32 (.int n.toNat) = .ok n := unsigned_eq_ok.mpr rfl

@[simp]
theorem i64_int (n : Int64) : i64 (.int n.toInt) = .ok n := by
  have hlow := n.le_toInt
  have hhigh := n.toInt_lt
  simp only [i64, integer_int]
  rw [if_pos (by omega)]
  simp [Except.map]

@[simp]
theorem i32_int (n : Int32) : i32 (.int n.toInt) = .ok n := by
  have hlow := n.le_toInt
  have hhigh := n.toInt_lt
  simp only [i32, integer_int]
  rw [if_pos (by omega)]
  simp [Except.map]

end Serde

end PhoneBridge.Library
