import Mathlib.Data.List.Basic
import Mathlib.Data.Nat.Find
import Mathlib.Logic.Function.Iterate

/-!
# Draining a list in chunks

A consumer takes the first `limit` items of a list, and they are gone if the
chunk is accepted; a refused chunk stays and is taken again. The list drains
exactly when every chunk that is ever taken is accepted (`drains_iff`).
-/

set_option autoImplicit false

namespace WolandGuard.Foundations

universe u

variable {α : Type u} (limit : Nat) (accepts : List α → Bool)

/-- One try at the first chunk. -/
def drainStep (items : List α) : List α :=
  if accepts (items.take limit) then items.drop limit else items

/-- The chunk number `k` of a list. -/
def chunk (items : List α) (k : Nat) : List α := (items.drop (k * limit)).take limit

variable {limit accepts} {items : List α}

/-- While the chunks are accepted, each try drops one. -/
theorem drain_accepted {n : Nat} (accepted : ∀ k < n, accepts (chunk limit items k) = true) :
    (drainStep limit accepts)^[n] items = items.drop (n * limit) := by
  induction n with
  | zero => simp
  | succ n ih =>
      have earlier := ih fun k less => accepted k (Nat.lt_succ_of_lt less)
      have taken : accepts ((items.drop (n * limit)).take limit) = true :=
        accepted n (Nat.lt_succ_self n)
      rw [Function.iterate_succ_apply', earlier, drainStep, if_pos taken, List.drop_drop,
        Nat.succ_mul]

/-- A refused chunk is taken again and again. -/
theorem drain_refused {k : Nat} (accepted : ∀ j < k, accepts (chunk limit items j) = true)
    (refused : accepts (chunk limit items k) = false) (n : Nat) :
    (drainStep limit accepts)^[n + k] items = items.drop (k * limit) := by
  induction n with
  | zero =>
      rw [Nat.zero_add]
      exact drain_accepted accepted
  | succ n ih =>
      have again : accepts ((items.drop (k * limit)).take limit) = false := refused
      rw [Nat.succ_add, Function.iterate_succ_apply', ih, drainStep, again]
      rfl

/-- An empty list stays empty. -/
theorem drainStep_nil : drainStep limit accepts ([] : List α) = [] := by
  unfold drainStep
  split
  · exact List.drop_nil
  · rfl

/-- **A list drains exactly when all its chunks are accepted.** -/
theorem drains_iff (positive : 0 < limit) :
    (∃ n, (drainStep limit accepts)^[n] items = []) ↔
      ∀ k, chunk limit items k ≠ [] → accepts (chunk limit items k) = true := by
  constructor
  · rintro ⟨n, drained⟩ k nonempty
    by_contra not_accepted
    -- the first refused chunk comes back for ever
    have refused_exists : ∃ j, accepts (chunk limit items j) = false ∧ chunk limit items j ≠ [] :=
      ⟨k, Bool.eq_false_iff.mpr not_accepted, nonempty⟩
    let first := Nat.find refused_exists
    have refused : accepts (chunk limit items first) = false ∧ chunk limit items first ≠ [] :=
      Nat.find_spec refused_exists
    have nonempty_rest : items.drop (first * limit) ≠ [] := fun empty =>
      refused.2 (by rw [chunk, empty, List.take_nil])
    have accepted : ∀ j < first, accepts (chunk limit items j) = true := by
      intro j less
      by_contra not_accepted_j
      refine Nat.find_min refused_exists less ⟨Bool.eq_false_iff.mpr not_accepted_j, fun empty => ?_⟩
      have earlier : j * limit ≤ first * limit := Nat.mul_le_mul_right _ (Nat.le_of_lt less)
      have short : items.drop (j * limit) = [] := by
        rcases List.take_eq_nil_iff.mp empty with zero | nil
        · omega
        · exact nil
      rw [List.drop_eq_nil_iff] at short
      exact nonempty_rest (List.drop_eq_nil_iff.mpr (by omega))
    have stays : (drainStep limit accepts)^[n + first] items = items.drop (first * limit) :=
      drain_refused accepted refused.1 n
    have empty : (drainStep limit accepts)^[n + first] items = [] := by
      rw [Nat.add_comm, Function.iterate_add_apply, drained]
      exact Function.iterate_fixed drainStep_nil first
    exact nonempty_rest (stays.symm.trans empty)
  · intro accepted
    -- chunks beyond the end are empty, and trying one changes nothing
    have reached : ∀ n, (drainStep limit accepts)^[n] items = items.drop (n * limit) := by
      intro n
      induction n with
      | zero => simp
      | succ n ih =>
          rw [Function.iterate_succ_apply', ih, Nat.succ_mul, ← List.drop_drop]
          by_cases empty : chunk limit items n = []
          · have rest_empty : items.drop (n * limit) = [] := by
              rcases List.take_eq_nil_iff.mp empty with zero | nil
              · omega
              · exact nil
            rw [rest_empty, drainStep_nil, List.drop_nil]
          · have taken : accepts ((items.drop (n * limit)).take limit) = true := accepted n empty
            rw [drainStep, if_pos taken]
    refine ⟨items.length, ?_⟩
    rw [reached, List.drop_eq_nil_iff]
    exact Nat.le_mul_of_pos_right _ positive

end WolandGuard.Foundations
