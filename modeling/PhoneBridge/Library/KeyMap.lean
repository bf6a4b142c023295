import Mathlib.Logic.Function.Basic

/-!
# Key maps

A map from keys to at most one value, with the operations of a hash map behind a lock: each
operation is one atomic change, and a key that an operation does not name keeps its value.
-/

namespace PhoneBridge.Library

/-- At most one value for each key. -/
def KeyMap (κ α : Type*) := κ → Option α

namespace KeyMap

variable {κ α : Type*}

/-- The map without entries. -/
def empty : KeyMap κ α := fun _ ↦ none

/-- The value stored for a key. -/
def get (m : KeyMap κ α) (key : κ) : Option α := m key

/-- Does the map have an entry for the key? -/
def contains (m : KeyMap κ α) (key : κ) : Bool := (m.get key).isSome

@[ext]
theorem ext {m₁ m₂ : KeyMap κ α} (h : ∀ key, m₁.get key = m₂.get key) : m₁ = m₂ := funext h

@[simp]
theorem get_empty (key : κ) : (empty : KeyMap κ α).get key = none := rfl

@[simp]
theorem contains_eq (m : KeyMap κ α) (key : κ) : m.contains key = (m.get key).isSome := rfl

variable [DecidableEq κ]

/-- Store a value, replacing the previous one. -/
def insert (m : KeyMap κ α) (key : κ) (value : α) : KeyMap κ α :=
  fun other ↦ if other = key then some value else m other

/-- Drop the entry of a key. -/
def remove (m : KeyMap κ α) (key : κ) : KeyMap κ α :=
  fun other ↦ if other = key then none else m other

/-- Give a key exactly the entry `value`. -/
def set (m : KeyMap κ α) (key : κ) (value : Option α) : KeyMap κ α :=
  fun other ↦ if other = key then value else m other

theorem get_insert (m : KeyMap κ α) (key other : κ) (value : α) :
    (m.insert key value).get other = if other = key then some value else m.get other := rfl

theorem get_remove (m : KeyMap κ α) (key other : κ) :
    (m.remove key).get other = if other = key then none else m.get other := rfl

theorem get_set (m : KeyMap κ α) (key other : κ) (value : Option α) :
    (m.set key value).get other = if other = key then value else m.get other := rfl

@[simp]
theorem get_set_self (m : KeyMap κ α) (key : κ) (value : Option α) :
    (m.set key value).get key = value := by
  simp [get_set]

@[simp]
theorem get_set_of_ne (m : KeyMap κ α) {key other : κ} (value : Option α) (h : other ≠ key) :
    (m.set key value).get other = m.get other := by
  simp [get_set, h]

@[simp]
theorem set_some (m : KeyMap κ α) (key : κ) (value : α) :
    m.set key (some value) = m.insert key value := rfl

@[simp]
theorem set_none (m : KeyMap κ α) (key : κ) : m.set key none = m.remove key := rfl

/-- Setting an entry to what it already is changes nothing. -/
theorem set_get {m : KeyMap κ α} {key : κ} {value : Option α} (h : m.get key = value) :
    m.set key value = m := by
  ext1 other
  by_cases hother : other = key
  · subst hother
    rw [get_set_self, h]
  · rw [get_set_of_ne m value hother]

theorem set_eq_self {m : KeyMap κ α} {key : κ} {value : Option α} :
    m.set key value = m ↔ m.get key = value := by
  constructor
  · intro h
    rw [← h, get_set_self]
  · exact set_get

@[simp]
theorem get_insert_self (m : KeyMap κ α) (key : κ) (value : α) :
    (m.insert key value).get key = some value := by
  simp [get_insert]

@[simp]
theorem get_insert_of_ne (m : KeyMap κ α) {key other : κ} (value : α) (h : other ≠ key) :
    (m.insert key value).get other = m.get other := by
  simp [get_insert, h]

/-- What is there after an insertion. -/
theorem get_insert_eq_some {m : KeyMap κ α} {key other : κ} {value stored : α} :
    (m.insert key value).get other = some stored ↔
      other = key ∧ value = stored ∨ other ≠ key ∧ m.get other = some stored := by
  rw [get_insert]
  split
  · next h => simp [h]
  · next h => simp [h]

@[simp]
theorem get_remove_self (m : KeyMap κ α) (key : κ) : (m.remove key).get key = none := by
  simp [get_remove]

@[simp]
theorem get_remove_of_ne (m : KeyMap κ α) {key other : κ} (h : other ≠ key) :
    (m.remove key).get other = m.get other := by
  simp [get_remove, h]

/-- What is left after a removal. -/
theorem get_remove_eq_some {m : KeyMap κ α} {key other : κ} {value : α} :
    (m.remove key).get other = some value ↔ other ≠ key ∧ m.get other = some value := by
  rw [get_remove]
  split
  · next h => exact iff_of_false nofun fun hboth ↦ hboth.1 h
  · next h => exact (and_iff_right h).symm

/-- Writing back the stored value changes nothing. -/
theorem insert_get {m : KeyMap κ α} {key : κ} {value : α} (h : m.get key = some value) :
    m.insert key value = m := set_get h

/-- Dropping an entry that is not there changes nothing. -/
theorem remove_get {m : KeyMap κ α} {key : κ} (h : m.get key = none) : m.remove key = m := set_get h

@[simp]
theorem insert_remove (m : KeyMap κ α) (key : κ) (value : α) :
    (m.remove key).insert key value = m.insert key value := by
  ext1 other
  by_cases hother : other = key
  · subst hother
    simp
  · simp [hother]

/-- Store the entries one after the other. -/
def insertAll (m : KeyMap κ α) (entries : List (κ × α)) : KeyMap κ α :=
  entries.foldl (fun m entry ↦ m.insert entry.1 entry.2) m

@[simp]
theorem insertAll_nil (m : KeyMap κ α) : m.insertAll [] = m := rfl

theorem insertAll_append (m : KeyMap κ α) (first second : List (κ × α)) :
    m.insertAll (first ++ second) = (m.insertAll first).insertAll second := List.foldl_append

/-- The value stored last under a key is kept; without one, the old value. -/
theorem get_insertAll (m : KeyMap κ α) (entries : List (κ × α)) (key : κ) :
    (m.insertAll entries).get key =
      ((entries.reverse.find? fun entry ↦ entry.1 = key).map Prod.snd).or (m.get key) := by
  induction entries generalizing m with
  | nil => rfl
  | cons entry entries ih =>
    calc
      _ = ((m.insert entry.1 entry.2).insertAll entries).get key := rfl
      _ = ((entries.reverse.find? fun entry ↦ entry.1 = key).map Prod.snd).or
          ((m.insert entry.1 entry.2).get key) := ih _
      _ = _ := by
        rw [List.reverse_cons, List.find?_append, Option.map_or, Option.or_assoc]
        by_cases hkey : entry.1 = key
        · simp [← hkey]
        · have hother : key ≠ entry.1 := fun h ↦ hkey h.symm
          simp [hkey, hother]

/-- Store a value unless the key has one. -/
def orInsert (m : KeyMap κ α) (key : κ) (value : α) : KeyMap κ α :=
  m.set key ((m.get key).or (some value))

/-- Store the entries whose keys have no value, one after the other. -/
def orInsertAll (m : KeyMap κ α) (entries : List (κ × α)) : KeyMap κ α :=
  entries.foldl (fun m entry ↦ m.orInsert entry.1 entry.2) m

/-- A stored value is kept; without one, the first entry of the key counts. -/
theorem get_orInsertAll (m : KeyMap κ α) (entries : List (κ × α)) (key : κ) :
    (m.orInsertAll entries).get key = (m.get key).or (entries.lookup key) := by
  induction entries generalizing m with
  | nil => exact (Option.or_none ..).symm
  | cons entry entries ih =>
    calc
      _ = ((m.orInsert entry.1 entry.2).orInsertAll entries).get key := rfl
      _ = ((m.orInsert entry.1 entry.2).get key).or (entries.lookup key) := ih _
      _ = _ := by
        rw [orInsert, get_set, List.lookup_cons]
        by_cases hkey : key = entry.1
        · subst hkey
          simp
        · have hbeq : (key == entry.1) = false := beq_eq_false_iff_ne.mpr hkey
          rw [if_neg hkey, hbeq]

end KeyMap

end PhoneBridge.Library
