import Mathlib.Data.Set.Card
import PhoneBridge.Library.Select

/-!
# Pages

What a listing with a limit shows of a set of rows.
-/

namespace PhoneBridge.Library.Select

variable {ρ : Type*} {rows : List ρ} {wanted : ρ → Bool} {time : ρ → Int64} {limit : Nat}
  {page : List ρ}

/-- The newest of the rows, newest first, as many as the limit allows. -/
structure IsPage (all : Set ρ) (time : ρ → Int64) (limit : Nat) (page : List ρ) : Prop where
  mem : ∀ row ∈ page, row ∈ all
  nodup : page.Nodup
  newest_first : page.Pairwise fun a b ↦ time b ≤ time a
  length : page.length = min limit all.ncard
  left_out : ∀ row ∈ all, row ∉ page → ∀ shown ∈ page, time row ≤ time shown

/-- A list without duplicates has as many elements as the set of its elements. -/
theorem ncard_mem_eq_length (h : rows.Nodup) : {row | row ∈ rows}.ncard = rows.length := by
  classical
  rw [← List.coe_toFinset, Set.ncard_coe_finset, List.toFinset_card_of_nodup h]

/-- The newest time of a list is the greatest one. -/
theorem max?_eq_some_iff {times : List Int64} {newest : Int64} :
    times.max? = some newest ↔ IsGreatest {t | t ∈ times} newest := by
  have hmax : Std.LawfulOrderMax Int64 := {
    max_eq_or := fun a b ↦ by
      change (if a ≤ b then b else a) = a ∨ (if a ≤ b then b else a) = b
      split_ifs <;> simp
    max_le_iff := fun a b c ↦ by
      change (if a ≤ b then b else a) ≤ c ↔ _
      split_ifs with h
      · exact ⟨fun hb ↦ ⟨Int64.le_trans h hb, hb⟩, And.right⟩
      · exact ⟨fun ha ↦ ⟨ha, Int64.le_trans ((Int64.le_total a b).resolve_left h) ha⟩, And.left⟩ }
  exact List.max?_eq_some_iff

/-- A listing does not depend on the order of the rows. -/
theorem Lists.of_perm {others : List ρ} (h : Lists rows wanted time limit page)
    (hperm : rows.Perm others) : Lists others wanted time limit page := by
  obtain ⟨sorted, hsorted, hnewest, rfl⟩ := h
  exact ⟨sorted, hsorted.trans (hperm.filter wanted), hnewest, rfl⟩

/-- A listing of what is shown of the rows. -/
theorem Lists.map {α : Type*} {shown : ρ → α} {wanted : α → Bool} {time : α → Int64}
    (h : Lists rows (wanted ∘ shown) (time ∘ shown) limit page) :
    Lists (rows.map shown) wanted time limit (page.map shown) := by
  obtain ⟨sorted, hsorted, hnewest, rfl⟩ := h
  refine ⟨sorted.map shown, ?_, List.pairwise_map.mpr hnewest, List.map_take⟩
  rw [List.filter_map]
  exact hsorted.map shown

/-- A listing is a page of the wanted rows. -/
theorem Lists.isPage (h : Lists rows wanted time limit page) (hnodup : rows.Nodup) :
    IsPage {row | row ∈ rows ∧ wanted row = true} time limit page := by
  obtain ⟨sorted, hperm, hsorted, rfl⟩ := h
  have hmem : ∀ row, row ∈ sorted ↔ row ∈ rows ∧ wanted row = true := fun row ↦
    hperm.mem_iff.trans List.mem_filter
  have hsortedNodup : sorted.Nodup := hperm.nodup_iff.mpr (hnodup.filter _)
  have hset : {row | row ∈ rows ∧ wanted row = true} = {row | row ∈ sorted} :=
    Set.ext fun row ↦ (hmem row).symm
  exact {
    mem := fun row hrow ↦ (hmem row).mp (List.mem_of_mem_take hrow)
    nodup := hsortedNodup.sublist (List.take_sublist _ _)
    newest_first := hsorted.sublist (List.take_sublist _ _)
    length := by rw [hset, ncard_mem_eq_length hsortedNodup, List.length_take]
    left_out := by
      intro row hrow hpage shown hshown
      rw [← List.take_append_drop limit sorted, List.pairwise_append] at hsorted
      refine hsorted.2.2 shown hshown row ?_
      have hsplit : row ∈ sorted.take limit ++ sorted.drop limit := by
        rw [List.take_append_drop]
        exact (hmem row).mpr hrow
      exact (List.mem_append.mp hsplit).resolve_left hpage }

/-- The first row of a page is the newest of all. -/
theorem IsPage.le_head {all : Set ρ} {first : ρ} {rest : List ρ}
    (h : IsPage all time limit (first :: rest)) {row : ρ} (hrow : row ∈ all) :
    time row ≤ time first := by
  by_cases hshown : row ∈ first :: rest
  · rcases List.mem_cons.mp hshown with rfl | hlater
    · exact Int64.le_refl _
    · exact List.rel_of_pairwise_cons h.newest_first hlater
  · exact h.left_out row hrow hshown first List.mem_cons_self

/-- A page shows something as soon as there is something, first a row with the greatest time. -/
theorem IsPage.head? {all : Set ρ} (h : IsPage all time limit page) (hlimit : 0 < limit)
    (hfinite : all.Finite) {newest : Int64} (hnewest : IsGreatest (time '' all) newest) :
    page.head?.map time = some newest := by
  obtain ⟨⟨row, hrow, rfl⟩, hgreatest⟩ := hnewest
  have hpositive : 0 < all.ncard := (Set.ncard_pos hfinite).mpr ⟨row, hrow⟩
  cases page with
  | nil =>
    have hlength : 0 = min limit all.ncard := h.length
    omega
  | cons first rest =>
    have hfirst := hgreatest (Set.mem_image_of_mem time (h.mem first List.mem_cons_self))
    exact congrArg some (Int64.le_antisymm hfirst (h.le_head hrow))

end PhoneBridge.Library.Select
