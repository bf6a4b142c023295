import Mathlib.Data.List.Basic
import Mathlib.Data.List.Sort

/-!
# Row numbers

`ROW_NUMBER() OVER (ORDER BY …)`: the place of a row among rows that are sorted by an order in which
no two of them are level.
-/

namespace PhoneBridge.Library

variable {ρ : Type*}

/-- The place of a row in the sorted list, counted from one. -/
def rowNumber [DecidableEq ρ] (first : ρ → ρ → Bool) (rows : List ρ) (row : ρ) : Nat :=
  (rows.mergeSort first).idxOf row + 1

/-- A total order that ranks the rows of a list, none of them level with another. -/
structure Ranks (first : ρ → ρ → Bool) (rows : List ρ) : Prop where
  trans : ∀ a b c, first a b → first b c → first a c
  total : ∀ a b, first a b || first b a
  antisymm : ∀ a ∈ rows, ∀ b ∈ rows, first a b → first b a → a = b

variable {first : ρ → ρ → Bool} {rows : List ρ}

theorem Ranks.filter (h : Ranks first rows) (cond : ρ → Bool) : Ranks first (rows.filter cond) where
  trans := h.trans
  total := h.total
  antisymm a ha b hb := h.antisymm a (List.mem_of_mem_filter ha) b (List.mem_of_mem_filter hb)

/-- The first row of a list is the head of the sorted one. -/
theorem Ranks.exists_first (h : Ranks first rows) (hrows : rows ≠ []) :
    ∃ head tail, rows.mergeSort first = head :: tail ∧ head ∈ rows ∧
      ∀ row ∈ rows, first head row := by
  have hperm := List.mergeSort_perm rows first
  have hsorted := List.pairwise_mergeSort h.trans h.total rows
  cases hcase : rows.mergeSort first with
  | nil =>
    rw [hcase] at hperm
    exact absurd hperm.nil_eq.symm hrows
  | cons head tail =>
    rw [hcase] at hperm hsorted
    refine ⟨head, tail, rfl, hperm.mem_iff.mp List.mem_cons_self, fun row hrow ↦ ?_⟩
    rcases List.mem_cons.mp (hperm.mem_iff.mpr hrow) with rfl | htail
    · simpa using h.total row row
    · exact (List.pairwise_cons.mp hsorted).1 row htail

variable [DecidableEq ρ]

/-- The row with the number one is the first of all. -/
theorem Ranks.rowNumber_eq_one (h : Ranks first rows) {row : ρ} (hrow : row ∈ rows) :
    rowNumber first rows row = 1 ↔ ∀ other ∈ rows, first row other := by
  obtain ⟨head, tail, hsorted, hhead, hfirst⟩ := h.exists_first (List.ne_nil_of_mem hrow)
  have hnumber : rowNumber first rows row = 1 ↔ head = row := by
    rw [rowNumber, hsorted]
    by_cases heq : head = row
    · simp [heq]
    · simp [List.idxOf_cons_ne tail heq, heq]
  rw [hnumber]
  constructor
  · intro heq other hother
    rw [← heq]
    exact hfirst other hother
  · intro hall
    exact h.antisymm head hhead row hrow (hfirst row hrow) (hall head hhead)

/-- A later row has another one in front of it. -/
theorem Ranks.one_lt_rowNumber (h : Ranks first rows) {row : ρ} (hrow : row ∈ rows) :
    1 < rowNumber first rows row ↔ ∃ other ∈ rows, first row other = false := by
  have hpositive : 1 ≤ rowNumber first rows row := Nat.le_add_left 1 _
  rw [← not_iff_not, not_lt, hpositive.ge_iff_eq', h.rowNumber_eq_one hrow]
  simp

end PhoneBridge.Library
