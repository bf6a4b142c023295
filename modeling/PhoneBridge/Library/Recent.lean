import Mathlib.Data.List.DropRight
import Mathlib.Data.List.Nodup
import Mathlib.Data.List.Perm.Basic

/-!
# The newest entries of a log

A log lists its entries oldest first; `log.rtake k` are the newest `k` of them.
-/

namespace PhoneBridge.Library

variable {α : Type*} {log : List α} {j k : Nat}

@[simp]
theorem length_rtake (log : List α) (k : Nat) : (log.rtake k).length = min k log.length := by
  rw [List.rtake, List.length_drop]
  omega

theorem rtake_suffix (log : List α) (k : Nat) : log.rtake k <:+ log := List.drop_suffix _ _

theorem rtake_eq_rtake_iff : log.rtake j = log.rtake k ↔ min j log.length = min k log.length := by
  constructor
  · intro h
    rw [← length_rtake, ← length_rtake, h]
  · intro h
    have hdrop : log.length - j = log.length - k := by omega
    rw [List.rtake, List.rtake, hdrop]

theorem rtake_of_length_le (h : log.length ≤ k) : log.rtake k = log := by
  rw [List.rtake, Nat.sub_eq_zero_of_le h, List.drop_zero]

@[simp]
theorem rtake_min_length : log.rtake (min k log.length) = log.rtake k := by
  rw [rtake_eq_rtake_iff]
  omega

/-- Without their oldest entry the newest entries are one fewer. -/
theorem tail_rtake (h : k < log.length) : (log.rtake (k + 1)).tail = log.rtake k := by
  have hdrop : log.length - (k + 1) + 1 = log.length - k := by omega
  rw [List.rtake, List.tail_drop, hdrop, List.rtake]

/-- The oldest and the newest entries of a log are the same ones when there are no others. -/
theorem take_perm_rtake_iff (hdistinct : log.Nodup) (hk : 0 < k) :
    (log.take k).Perm (log.rtake k) ↔ log.length ≤ k := by
  constructor
  · intro hperm
    by_contra hlong
    cases log with
    | nil => exact hlong (Nat.zero_le k)
    | cons oldest rest =>
      rw [List.length_cons] at hlong
      have hold : oldest ∈ (oldest :: rest).take k := by
        rw [← Nat.succ_pred_eq_of_pos hk]
        exact List.mem_cons_self
      have hdrop : rest.length + 1 - k = rest.length - k + 1 := by omega
      have hnew : oldest ∈ rest.drop (rest.length - k) := by
        have hmem := hperm.mem_iff.mp hold
        rwa [List.rtake, List.length_cons, hdrop, List.drop_succ_cons] at hmem
      exact (List.nodup_cons.mp hdistinct).1 (List.mem_of_mem_drop hnew)
  · intro h
    rw [List.take_of_length_le h, rtake_of_length_le h]

end PhoneBridge.Library
