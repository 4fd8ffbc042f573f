import Mathlib.Data.Finset.Card
import Mathlib.Data.List.Sort
import Mathlib.Data.List.Perm.Subperm

/-!
# The greatest members of a list

The first `r` members of a list in descending order are its `r` greatest. A
bound lies below all of them exactly when at least `r` members of the list lie
above the bound (`forall_mem_take_iff`). So whether a choice of the greatest
members reaches down to a bound is a matter of counting, and counting does not
depend on how ties are ordered.
-/

set_option autoImplicit false

namespace WolandGuard.Foundations

universe u v

variable {ρ : Type u} {τ : Type v} [LinearOrder τ] {rank : ρ → τ}

/-- Nothing below the head counts once the head does not. -/
theorem countP_eq_zero_of_descending {head : ρ} {tail : List ρ} {bound : τ}
    (below : ∀ x ∈ tail, rank x ≤ rank head) (short : ¬ bound ≤ rank head) :
    (head :: tail).countP (fun x => bound ≤ rank x) = 0 := by
  rw [List.countP_eq_zero]
  intro x member
  simp only [decide_eq_true_eq]
  rcases List.mem_cons.mp member with rfl | rest
  · exact short
  · exact fun reached => short (reached.trans (below x rest))

/-- **A bound lies below the `r` greatest members exactly when at least `r`
members lie above it.** -/
theorem forall_mem_take_iff {items : List ρ} {r : Nat} (bound : τ)
    (descending : items.Pairwise fun left right => rank right ≤ rank left)
    (enough : r ≤ items.length) :
    (∀ x ∈ items.take r, bound ≤ rank x) ↔ r ≤ items.countP fun x => bound ≤ rank x := by
  induction items generalizing r with
  | nil =>
      obtain rfl : r = 0 := Nat.le_zero.mp enough
      simp
  | cons head tail ih =>
      obtain ⟨below, descending_tail⟩ := List.pairwise_cons.mp descending
      cases r with
      | zero => simp
      | succ r =>
          rw [List.take_succ_cons, List.forall_mem_cons]
          by_cases reached : bound ≤ rank head
          · rw [List.countP_cons, if_pos (by simpa using reached), Nat.add_le_add_iff_right,
              ih descending_tail (Nat.le_of_succ_le_succ enough)]
            exact and_iff_right reached
          · rw [countP_eq_zero_of_descending below reached]
            simp [reached]

theorem subperm_filterMap {σ : Type v} (f : ρ → Option σ) {fewer more : List ρ}
    (subset : fewer.Subperm more) : (fewer.filterMap f).Subperm (more.filterMap f) := by
  obtain ⟨middle, perm, sublist⟩ := subset
  exact ⟨middle.filterMap f, perm.filterMap f, sublist.filterMap f⟩

/-- The number of different members does not shrink. -/
theorem dedup_length_le {σ : Type v} [DecidableEq σ] {fewer more : List σ}
    (subset : fewer ⊆ more) : fewer.dedup.length ≤ more.dedup.length := by
  rw [← List.card_toFinset, ← List.card_toFinset]
  refine Finset.card_le_card fun x member => ?_
  rw [List.mem_toFinset] at member ⊢
  exact subset member

section Sorting

variable {precedes : ρ → ρ → Bool}

/-- Sorting by an order that refines a rank sorts by the rank. -/
theorem insertionSort_pairwise (total : ∀ x y, precedes x y = true ∨ precedes y x = true)
    (transitive : ∀ x y z, precedes x y = true → precedes y z = true → precedes x z = true)
    (items : List ρ) : (items.insertionSort (precedes · ·)).Pairwise (precedes · ·) := by
  have : Std.Total (fun x y : ρ => precedes x y = true) := ⟨total⟩
  have : IsTrans ρ (fun x y : ρ => precedes x y = true) := ⟨transitive⟩
  exact List.pairwise_insertionSort _ items

end Sorting

end WolandGuard.Foundations
