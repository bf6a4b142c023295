import Mathlib.Data.List.Nodup
import Mathlib.Data.List.Sort

/-!
# Tables with primary keys

Rows under a primary key that the database numbers itself, and rows under a key of their own. The
primary key is part of the type of a table: its operations keep it.
-/

namespace PhoneBridge.Library

variable {ρ κ : Type*}

/-- A table whose primary key is numbered automatically; a number is never used twice. The rows
are in the order of their numbers. -/
structure NumberedTable (ρ : Type*) (number : ρ → Nat) where
  rows : List ρ
  last : Nat
  increasing : (rows.map number).Pairwise (· < ·)
  bounded : ∀ row ∈ rows, number row ≤ last

namespace NumberedTable

variable {number : ρ → Nat}

def empty : NumberedTable ρ number where
  rows := []
  last := 0
  increasing := .nil
  bounded := by simp

/-- Insert a row under the next number. -/
def insert (t : NumberedTable ρ number) (make : Nat → ρ) (hmake : ∀ n, number (make n) = n) :
    NumberedTable ρ number where
  rows := t.rows ++ [make (t.last + 1)]
  last := t.last + 1
  increasing := by
    rw [List.map_append, List.pairwise_append]
    refine ⟨t.increasing, by simp, fun n hn m hm ↦ ?_⟩
    obtain ⟨row, hrow, rfl⟩ := List.mem_map.mp hn
    obtain rfl : m = t.last + 1 := by simpa [hmake] using hm
    exact Nat.lt_succ_of_le (t.bounded row hrow)
  bounded := by
    intro row hrow
    rcases List.mem_append.mp hrow with hrow | hrow
    · exact Nat.le_succ_of_le (t.bounded row hrow)
    · rw [List.mem_singleton.mp hrow, hmake]

/-- Use up a number without a row. -/
def skip (t : NumberedTable ρ number) : NumberedTable ρ number where
  rows := t.rows
  last := t.last + 1
  increasing := t.increasing
  bounded := fun row hrow ↦ Nat.le_succ_of_le (t.bounded row hrow)

/-- Change the rows that meet a condition, but not their numbers. -/
def update (t : NumberedTable ρ number) (cond : ρ → Bool) (set : ρ → ρ)
    (hset : ∀ row, number (set row) = number row) : NumberedTable ρ number where
  rows := t.rows.map fun row ↦ if cond row then set row else row
  last := t.last
  increasing := by
    have hnumbers : (t.rows.map fun row ↦ if cond row then set row else row).map number =
        t.rows.map number := by
      rw [List.map_map]
      refine List.map_congr_left fun row _ ↦ ?_
      by_cases h : cond row <;> simp [h, hset]
    rw [hnumbers]
    exact t.increasing
  bounded := by
    intro row hrow
    obtain ⟨old, hold, rfl⟩ := List.mem_map.mp hrow
    have hnumber := t.bounded old hold
    by_cases h : cond old <;> simpa [h, hset] using hnumber

/-- Delete the rows that meet a condition. -/
def delete (t : NumberedTable ρ number) (cond : ρ → Bool) : NumberedTable ρ number where
  rows := t.rows.filter fun row ↦ !cond row
  last := t.last
  increasing := t.increasing.sublist (List.filter_sublist.map number)
  bounded := fun row hrow ↦ t.bounded row (List.mem_filter.mp hrow).1

variable (t : NumberedTable ρ number)

@[simp]
theorem rows_empty : (empty : NumberedTable ρ number).rows = [] := rfl

@[simp]
theorem rows_insert (make : Nat → ρ) (hmake : ∀ n, number (make n) = n) :
    (t.insert make hmake).rows = t.rows ++ [make (t.last + 1)] := rfl

@[simp]
theorem rows_skip : t.skip.rows = t.rows := rfl

@[simp]
theorem rows_update (cond : ρ → Bool) (set : ρ → ρ) (hset : ∀ row, number (set row) = number row) :
    (t.update cond set hset).rows = t.rows.map fun row ↦ if cond row then set row else row := rfl

@[simp]
theorem rows_delete (cond : ρ → Bool) :
    (t.delete cond).rows = t.rows.filter fun row ↦ !cond row := rfl

/-- A deletion that finds no row changes nothing. -/
theorem delete_of_not {cond : ρ → Bool} (h : ∀ row ∈ t.rows, cond row = false) :
    t.delete cond = t := by
  cases t
  simp only [delete, mk.injEq, and_true, List.filter_eq_self]
  intro row hrow
  simp [h row hrow]

/-- A row is determined by its number. -/
theorem eq_of_number_eq {row other : ρ} (hrow : row ∈ t.rows) (hother : other ∈ t.rows)
    (h : number row = number other) : row = other :=
  List.inj_on_of_nodup_map (t.increasing.imp (fun hlt ↦ hlt.ne)) hrow hother h

theorem nodup_rows : t.rows.Nodup :=
  List.Nodup.of_map number (t.increasing.imp fun hlt ↦ hlt.ne)

end NumberedTable

/-- A table whose rows bring their primary key with them. -/
structure KeyedTable (ρ : Type*) {κ : Type*} (key : ρ → κ) where
  rows : List ρ
  nodup : (rows.map key).Nodup

namespace KeyedTable

variable {key : ρ → κ}

def empty : KeyedTable ρ key where
  rows := []
  nodup := .nil

/-- Insert a row in place of the one with the same key. -/
def insertOrReplace [DecidableEq κ] (t : KeyedTable ρ key) (row : ρ) : KeyedTable ρ key where
  rows := t.rows.filter (key · ≠ key row) ++ [row]
  nodup := by
    rw [List.map_append, List.nodup_append]
    refine ⟨t.nodup.sublist (List.filter_sublist.map key), by simp, fun k hk other hother ↦ ?_⟩
    obtain ⟨old, hold, rfl⟩ := List.mem_map.mp hk
    obtain rfl : other = key row := by simpa using hother
    simpa using (List.mem_filter.mp hold).2

/-- Change the rows that meet a condition, but not their keys. -/
def update (t : KeyedTable ρ key) (cond : ρ → Bool) (set : ρ → ρ)
    (hset : ∀ row, key (set row) = key row) : KeyedTable ρ key where
  rows := t.rows.map fun row ↦ if cond row then set row else row
  nodup := by
    have hkeys : (t.rows.map fun row ↦ if cond row then set row else row).map key =
        t.rows.map key := by
      rw [List.map_map]
      refine List.map_congr_left fun row _ ↦ ?_
      by_cases h : cond row <;> simp [h, hset]
    rw [hkeys]
    exact t.nodup

/-- Delete the rows that meet a condition. -/
def delete (t : KeyedTable ρ key) (cond : ρ → Bool) : KeyedTable ρ key where
  rows := t.rows.filter fun row ↦ !cond row
  nodup := t.nodup.sublist (List.filter_sublist.map key)

variable (t : KeyedTable ρ key)

@[simp]
theorem rows_empty : (empty : KeyedTable ρ key).rows = [] := rfl

@[simp]
theorem rows_insertOrReplace [DecidableEq κ] (row : ρ) :
    (t.insertOrReplace row).rows = t.rows.filter (key · ≠ key row) ++ [row] := rfl

@[simp]
theorem rows_update (cond : ρ → Bool) (set : ρ → ρ) (hset : ∀ row, key (set row) = key row) :
    (t.update cond set hset).rows = t.rows.map fun row ↦ if cond row then set row else row := rfl

@[simp]
theorem rows_delete (cond : ρ → Bool) :
    (t.delete cond).rows = t.rows.filter fun row ↦ !cond row := rfl

/-- A deletion that finds no row changes nothing. -/
theorem delete_of_not {cond : ρ → Bool} (h : ∀ row ∈ t.rows, cond row = false) :
    t.delete cond = t := by
  cases t
  simp only [delete, mk.injEq, List.filter_eq_self]
  intro row hrow
  simp [h row hrow]

/-- Inserting a row changes nothing but the order exactly when the row is there. -/
theorem insertOrReplace_perm [DecidableEq κ] {row : ρ} :
    (t.insertOrReplace row).rows.Perm t.rows ↔ row ∈ t.rows := by
  constructor
  · intro h
    exact h.mem_iff.mp (by simp)
  · intro hrow
    have hdistinct : (t.insertOrReplace row).rows.Nodup :=
      List.Nodup.of_map key (t.insertOrReplace row).nodup
    apply (List.perm_ext_iff_of_nodup hdistinct (List.Nodup.of_map key t.nodup)).mpr
    intro other
    simp only [rows_insertOrReplace, List.mem_append, List.mem_filter, List.mem_singleton,
      decide_eq_true_eq]
    constructor
    · rintro (⟨hother, -⟩ | rfl)
      · exact hother
      · exact hrow
    · intro hother
      by_cases hkey : key other = key row
      · exact .inr (List.inj_on_of_nodup_map t.nodup hother hrow hkey)
      · exact .inl ⟨hother, hkey⟩

/-- Of a column that is shared by the rows with a key, a row that comes in adds its own value. -/
theorem mem_map_insertOrReplace [DecidableEq κ] {β : Type*} {column : ρ → β} {row : ρ}
    (hcolumn : ∀ old, key old = key row → column old = column row) {b : β} :
    b ∈ (t.insertOrReplace row).rows.map column ↔ b ∈ t.rows.map column ∨ b = column row := by
  simp only [rows_insertOrReplace, List.map_append, List.mem_append, List.mem_map, List.mem_filter,
    decide_eq_true_eq, List.mem_singleton, exists_eq_left]
  constructor
  · rintro (⟨old, ⟨hold, -⟩, rfl⟩ | rfl)
    · exact .inl ⟨old, hold, rfl⟩
    · exact .inr rfl
  · rintro (⟨old, hold, rfl⟩ | rfl)
    · by_cases hkey : key old = key row
      · exact .inr (hcolumn old hkey).symm
      · exact .inl ⟨old, ⟨hold, hkey⟩, rfl⟩
    · exact .inr rfl

/-- Of the rows that share a key there is at most one. -/
theorem countP_eq_one_iff [DecidableEq κ] {cond : ρ → Bool} (k : κ)
    (h : ∀ row ∈ t.rows, cond row = true → key row = k) :
    t.rows.countP cond = 1 ↔ ∃ row ∈ t.rows, cond row = true := by
  have hmost : t.rows.countP cond ≤ 1 :=
    calc t.rows.countP cond
        ≤ t.rows.countP fun row ↦ key row == k :=
          List.countP_mono_left fun row hrow hcond ↦ by simp [h row hrow hcond]
      _ = (t.rows.map key).count k := by
          rw [List.count, List.countP_map]
          rfl
      _ ≤ 1 := List.nodup_iff_count_le_one.mp t.nodup k
  rw [← List.countP_pos_iff]
  omega

end KeyedTable

/-! ## The rows that a change leaves alone -/

section Frame

variable {rows : List ρ} {mine cond : ρ → Bool} {set : ρ → ρ}

/-- A change of other rows, into other rows, leaves mine as they are. -/
theorem filter_map_ite_of_not (h : ∀ row ∈ rows, cond row = true →
    mine row = false ∧ mine (set row) = false) :
    (rows.map fun row ↦ if cond row then set row else row).filter mine = rows.filter mine := by
  induction rows with
  | nil => rfl
  | cons row rows ih =>
    have hrest := ih fun other hother ↦ h other (List.mem_cons_of_mem _ hother)
    by_cases hcond : cond row = true
    · obtain ⟨hbefore, hafter⟩ := h row List.mem_cons_self hcond
      rw [List.map_cons, List.filter_cons, List.filter_cons, hrest]
      simp [hcond, hbefore, hafter]
    · rw [List.map_cons, List.filter_cons, List.filter_cons, hrest]
      simp [hcond]

/-- Deleting other rows leaves mine as they are. -/
theorem filter_delete_of_not (h : ∀ row ∈ rows, cond row = true → mine row = false) :
    (rows.filter fun row ↦ !cond row).filter mine = rows.filter mine := by
  rw [List.filter_filter]
  refine List.filter_congr fun row hrow ↦ ?_
  cases hcond : cond row with
  | true => simp [h row hrow hcond]
  | false => simp

/-- A change that keeps rows mine changes mine as it changes all. -/
theorem filter_map_ite_of_keep (h : ∀ row ∈ rows, cond row = true → mine (set row) = mine row) :
    (rows.map fun row ↦ if cond row then set row else row).filter mine =
      (rows.filter mine).map fun row ↦ if cond row then set row else row := by
  rw [List.filter_map]
  refine congrArg _ (List.filter_congr fun row hrow ↦ ?_)
  by_cases hcond : cond row = true
  · simpa [hcond] using h row hrow hcond
  · simp [hcond]

/-- Inserting another row, in place of another one, leaves mine as they are. -/
theorem KeyedTable.filter_insertOrReplace_of_not [DecidableEq κ] {key : ρ → κ}
    {t : KeyedTable ρ key} {new : ρ} (hnew : mine new = false)
    (hkey : ∀ row ∈ t.rows, key row = key new → mine row = false) :
    (t.insertOrReplace new).rows.filter mine = t.rows.filter mine := by
  rw [rows_insertOrReplace, List.filter_append, List.filter_cons_of_neg (by simp [hnew]),
    List.filter_nil, List.append_nil, List.filter_filter]
  refine List.filter_congr fun row hrow ↦ ?_
  by_cases hsame : key row = key new
  · simp [hkey row hrow hsame]
  · simp [hsame]

/-- Inserting a row of mine. -/
theorem KeyedTable.filter_insertOrReplace_of_mine [DecidableEq κ] {key : ρ → κ}
    {t : KeyedTable ρ key} {new : ρ} (hnew : mine new = true) :
    (t.insertOrReplace new).rows.filter mine =
      (t.rows.filter mine).filter (key · ≠ key new) ++ [new] := by
  rw [rows_insertOrReplace, List.filter_append, List.filter_cons_of_pos hnew, List.filter_nil,
    List.filter_filter, List.filter_filter]
  simp only [Bool.and_comm]

/-- A row of another owner leaves the rows of an owner as they are. -/
theorem KeyedTable.filter_insertOrReplace_other {ι ω : Type*} [DecidableEq ι] [DecidableEq ω]
    {id : ρ → ι} {owner : ρ → ω} {t : KeyedTable ρ fun row ↦ (id row, owner row)} {new : ρ}
    {other : ω} (h : owner new ≠ other) :
    (t.insertOrReplace new).rows.filter (owner · = other) = t.rows.filter (owner · = other) := by
  apply filter_insertOrReplace_of_not (by simpa using h)
  rintro row - hkey
  simp [(Prod.mk.inj hkey).2, h]

/-- Among the rows of one owner, a row of that owner replaces the one with the same id. -/
theorem KeyedTable.filter_insertOrReplace_own {ι ω : Type*} [DecidableEq ι] [DecidableEq ω]
    {id : ρ → ι} {owner : ρ → ω} {t : KeyedTable ρ fun row ↦ (id row, owner row)} {new : ρ} :
    (t.insertOrReplace new).rows.filter (owner · = owner new) =
      (t.rows.filter (owner · = owner new)).filter (id · ≠ id new) ++ [new] := by
  rw [filter_insertOrReplace_of_mine (by simp)]
  refine congrArg (· ++ [new]) (List.filter_congr fun row hrow ↦ ?_)
  have howner : owner row = owner new := by simpa using (List.mem_filter.mp hrow).2
  simp [howner]

end Frame

end PhoneBridge.Library
