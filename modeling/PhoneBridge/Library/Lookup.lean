import Mathlib.Data.List.Basic
import PhoneBridge.Library.KeyMap
import PhoneBridge.Library.Table

/-!
# Looking up rows by a key

The first row with a key, and what the operations of a table do to it.
-/

namespace PhoneBridge.Library

variable {ρ κ : Type*} [DecidableEq κ] {key : ρ → κ} {rows : List ρ} {k : κ} {row : ρ}

/-- The first row with a key. -/
def lookupBy (key : ρ → κ) (rows : List ρ) (k : κ) : Option ρ := rows.find? (key · = k)

@[simp]
theorem lookupBy_nil : lookupBy key [] k = none := rfl

/-- A row that is found is there, and has the key. -/
theorem mem_of_lookupBy (h : lookupBy key rows k = some row) : row ∈ rows ∧ key row = k :=
  ⟨List.mem_of_find?_eq_some h, by simpa using List.find?_some h⟩

/-- Where keys are unique, a row is found under its key. -/
theorem lookupBy_eq_some (hnodup : (rows.map key).Nodup) :
    lookupBy key rows k = some row ↔ row ∈ rows ∧ key row = k := by
  constructor
  · exact mem_of_lookupBy
  · rintro ⟨hrow, rfl⟩
    cases hfound : lookupBy key rows (key row) with
    | none => exact absurd (List.find?_eq_none.mp hfound row hrow) (by simp)
    | some other =>
      obtain ⟨hother, hsame⟩ := mem_of_lookupBy hfound
      rw [List.inj_on_of_nodup_map hnodup hother hrow hsame]

theorem lookupBy_eq_none : lookupBy key rows k = none ↔ k ∉ rows.map key := by
  simp only [lookupBy, List.find?_eq_none, decide_eq_true_eq, List.mem_map, not_exists, not_and]

/-- Rows change under their keys. -/
theorem lookupBy_update (key : ρ → κ) (rows : List ρ) (k : κ) (cond : ρ → Bool) (set : ρ → ρ)
    (hset : ∀ row, key (set row) = key row) :
    lookupBy key (rows.map fun row ↦ if cond row then set row else row) k =
      (lookupBy key rows k).map fun row ↦ if cond row then set row else row := by
  have hkey : (fun row ↦ decide (key row = k)) ∘ (fun row ↦ if cond row then set row else row) =
      fun row ↦ decide (key row = k) := by
    funext row
    by_cases h : cond row = true <;> simp [h, hset]
  rw [lookupBy, List.find?_map, hkey]
  rfl

/-- Rows are kept by their keys. -/
theorem lookupBy_filter {p : ρ → Bool} (keep : κ → Bool) (h : ∀ row, p row = keep (key row)) :
    lookupBy key (rows.filter p) k = if keep k then lookupBy key rows k else none := by
  induction rows with
  | nil => simp
  | cons row rows ih =>
    by_cases hkey : key row = k
    · subst hkey
      by_cases hkeep : keep (key row) = true
      · simp [lookupBy, h, hkeep]
      · rw [List.filter_cons_of_neg (by simp [h, hkeep]), ih, if_neg hkeep, if_neg hkeep]
    · have hskip : lookupBy key (row :: rows) k = lookupBy key rows k :=
        List.find?_cons_of_neg (by simpa using hkey)
      rw [hskip, ← ih, List.filter_cons]
      split_ifs
      · exact List.find?_cons_of_neg (by simpa using hkey)
      · rfl

/-- A new last row is found unless there is an earlier one. -/
theorem lookupBy_concat :
    lookupBy key (rows ++ [row]) k =
      (lookupBy key rows k).or (if key row = k then some row else none) := by
  rw [lookupBy, List.find?_append]
  congr 1
  by_cases h : key row = k <;> simp [h]

theorem KeyedTable.lookupBy_insertOrReplace (t : KeyedTable ρ key) (row : ρ) :
    lookupBy key (t.insertOrReplace row).rows k =
      if k = key row then some row else lookupBy key t.rows k := by
  rw [rows_insertOrReplace, lookupBy_concat,
    lookupBy_filter (fun other ↦ decide (other ≠ key row)) fun _ ↦ rfl]
  by_cases h : k = key row
  · subst h
    simp
  · simp [h, Ne.symm h]

/-! ## Rows by owner -/

section Shelf

variable {ν ο : Type*} [DecidableEq ν] [DecidableEq ο] {key : ρ → ν × ο} {owner : ο}

/-- The rows of one owner by their names; a key is a name with an owner. -/
def shelf (key : ρ → ν × ο) (rows : List ρ) (owner : ο) : KeyMap ν ρ :=
  fun name ↦ lookupBy key rows (name, owner)

theorem get_shelf (name : ν) : (shelf key rows owner).get name = lookupBy key rows (name, owner) :=
  rfl

/-- A row is put on the shelf of its owner. -/
theorem shelf_insertOrReplace (t : KeyedTable ρ key) (row : ρ) :
    shelf key (t.insertOrReplace row).rows owner =
      if owner = (key row).2 then (shelf key t.rows owner).insert (key row).1 row
      else shelf key t.rows owner := by
  ext1 name
  rw [get_shelf, t.lookupBy_insertOrReplace]
  by_cases howner : owner = (key row).2
  · subst howner
    rw [if_pos rfl, KeyMap.get_insert, get_shelf]
    by_cases hname : name = (key row).1
    · rw [if_pos (by rw [hname]), if_pos hname]
    · rw [if_neg fun h ↦ hname (congrArg Prod.fst h), if_neg hname]
  · rw [if_neg howner, if_neg fun h ↦ howner (congrArg Prod.snd h), get_shelf]

/-- A row is changed on the shelf of its owner. -/
theorem shelf_update (key : ρ → ν × ο) (rows : List ρ) {name : ν} {owner : ο} {cond : ρ → Bool}
    (set : ρ → ρ) (hset : ∀ row, key (set row) = key row)
    (hcond : ∀ row, cond row = true ↔ key row = (name, owner)) (other : ο) :
    shelf key (rows.map fun row ↦ if cond row then set row else row) other =
      if other = owner then
        (shelf key rows other).set name (((shelf key rows other).get name).map set)
      else shelf key rows other := by
  ext1 another
  rw [get_shelf, lookupBy_update key rows _ cond set hset]
  cases hrow : lookupBy key rows (another, other) with
  | none =>
    split_ifs with hother
    · rw [KeyMap.get_set]
      split_ifs with hname
      · rw [← hname, get_shelf, hrow]
        rfl
      · exact hrow.symm
    · exact hrow.symm
  | some row =>
    have hkey := (mem_of_lookupBy hrow).2
    split_ifs with hother
    · rw [KeyMap.get_set]
      split_ifs with hname
      · rw [← hname, get_shelf, hrow, Option.map_some, Option.map_some,
          if_pos ((hcond row).mpr (by rw [hkey, hname, hother]))]
      · rw [Option.map_some, if_neg, get_shelf, hrow]
        intro h
        rw [(hcond row).mp h] at hkey
        exact hname (congrArg Prod.fst hkey).symm
    · rw [Option.map_some, if_neg, get_shelf, hrow]
      intro h
      rw [(hcond row).mp h] at hkey
      exact hother (congrArg Prod.snd hkey).symm

/-- The shelves of some owners are cleared. -/
theorem shelf_delete {p : ρ → Bool} (keep : ο → Bool) (h : ∀ row, p row = keep (key row).2) :
    shelf key (rows.filter p) owner = if keep owner then shelf key rows owner else .empty := by
  ext1 name
  rw [get_shelf, lookupBy_filter (fun k ↦ keep k.2) h]
  split_ifs <;> rfl

theorem shelf_eq_empty :
    shelf key rows owner = .empty ↔ owner ∉ rows.map fun row ↦ (key row).2 := by
  constructor
  · intro h howner
    obtain ⟨row, hrow, rfl⟩ := List.mem_map.mp howner
    have hnone : lookupBy key rows ((key row).1, (key row).2) = none :=
      congrArg (KeyMap.get · (key row).1) h
    exact lookupBy_eq_none.mp hnone (List.mem_map_of_mem hrow)
  · intro h
    ext1 name
    refine lookupBy_eq_none.mpr fun hkey ↦ h ?_
    obtain ⟨row, hrow, heq⟩ := List.mem_map.mp hkey
    exact List.mem_map.mpr ⟨row, hrow, congrArg Prod.snd heq⟩

end Shelf

end PhoneBridge.Library
