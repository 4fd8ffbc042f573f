import Mathlib.Data.List.Nodup
import Mathlib.Data.List.Perm.Subperm

/-!
# Rows of a table

A table is a list of rows. `updateWhere` is the statement
`UPDATE … SET … WHERE …`, and `rowOf` reads the row with a given key. An
update that keeps the keys acts on each row by itself (`rowOf_updateWhere`),
so a row that does not meet the condition is the same before and after.
-/

set_option autoImplicit false

namespace WolandGuard.Foundations

universe u v

variable {ρ : Type u} {κ : Type v}

/-- Change the rows that meet a condition. -/
def updateWhere (condition : ρ → Bool) (change : ρ → ρ) (rows : List ρ) : List ρ :=
  rows.map fun row => if condition row then change row else row

theorem mem_updateWhere {condition : ρ → Bool} {change : ρ → ρ} {rows : List ρ} {row : ρ} :
    row ∈ updateWhere condition change rows ↔
      ∃ old ∈ rows, (if condition old then change old else old) = row := by
  simp only [updateWhere, List.mem_map]

/-- An update whose condition no row meets changes nothing. -/
theorem updateWhere_of_none {condition : ρ → Bool} (change : ρ → ρ) {rows : List ρ}
    (none_meets : ∀ row ∈ rows, condition row = false) :
    updateWhere condition change rows = rows := by
  unfold updateWhere
  refine (List.map_congr_left fun row member => ?_).trans (List.map_id rows)
  rw [none_meets row member]
  rfl

/-- An update that keeps a column keeps the list of its values. -/
theorem map_updateWhere {column : ρ → κ} {condition : ρ → Bool} {change : ρ → ρ}
    (keeps : ∀ row, condition row = true → column (change row) = column row) (rows : List ρ) :
    (updateWhere condition change rows).map column = rows.map column := by
  simp only [updateWhere, List.map_map]
  refine List.map_congr_left fun row _ => ?_
  simp only [Function.comp_apply]
  split
  next meets => exact keeps row meets
  · rfl

/-- A search for what an update keeps of its rows finds the same row, updated. -/
theorem find?_updateWhere_of_mem {wanted condition : ρ → Bool} {change : ρ → ρ} {rows : List ρ}
    (keeps : ∀ row ∈ rows, condition row = true → wanted (change row) = wanted row) :
    (updateWhere condition change rows).find? wanted =
      (rows.find? wanted).map fun row => if condition row then change row else row := by
  induction rows with
  | nil => rfl
  | cons row rows ih =>
      have same : wanted (if condition row then change row else row) = wanted row := by
        split
        next meets => exact keeps row List.mem_cons_self meets
        · rfl
      have rest := ih fun other member => keeps other (List.mem_cons_of_mem _ member)
      rw [updateWhere] at rest ⊢
      rw [List.map_cons, List.find?_cons, List.find?_cons, same]
      cases wanted row with
      | true => rfl
      | false => exact rest

theorem find?_updateWhere {wanted condition : ρ → Bool} {change : ρ → ρ}
    (keeps : ∀ row, condition row = true → wanted (change row) = wanted row) (rows : List ρ) :
    (updateWhere condition change rows).find? wanted =
      (rows.find? wanted).map fun row => if condition row then change row else row :=
  find?_updateWhere_of_mem fun row _ => keeps row

section Keys

variable [DecidableEq κ] (key : ρ → κ)

/-- The row with a given key. -/
def rowOf (rows : List ρ) (k : κ) : Option ρ :=
  rows.find? fun row => key row = k

variable {key}

theorem rowOf_mem {rows : List ρ} {k : κ} {row : ρ} (found : rowOf key rows k = some row) :
    row ∈ rows ∧ key row = k := by
  refine ⟨List.mem_of_find?_eq_some found, ?_⟩
  simpa using List.find?_some found

/-- With unique keys, a row of the table is the row of its key. -/
theorem rowOf_of_mem {rows : List ρ} (unique : (rows.map key).Nodup) {row : ρ}
    (member : row ∈ rows) : rowOf key rows (key row) = some row := by
  induction rows with
  | nil => cases member
  | cons head rows ih =>
      simp only [List.map_cons, List.nodup_cons] at unique
      rcases List.mem_cons.mp member with rfl | rest
      · simp [rowOf]
      · have other : key head ≠ key row := fun same =>
          unique.1 (same ▸ List.mem_map_of_mem rest)
        simpa [rowOf, other] using ih unique.2 rest

/-- With unique keys, the rows of one key with a property are that row or none. -/
theorem filter_key_of_mem {rows : List ρ} (unique : (rows.map key).Nodup) {row : ρ}
    (member : row ∈ rows) (property : ρ → Bool) :
    (rows.filter fun other => key other = key row && property other) =
      if property row then [row] else [] := by
  induction rows with
  | nil => cases member
  | cons head rows ih =>
      simp only [List.map_cons, List.nodup_cons, List.mem_map, not_exists, not_and] at unique
      rcases List.mem_cons.mp member with rfl | rest
      · have none_left :
            (rows.filter fun other => key other = key row && property other) = [] := by
          simp only [List.filter_eq_nil_iff, Bool.and_eq_true, decide_eq_true_eq, not_and]
          exact fun other other_member same => absurd same (unique.1 other other_member)
        by_cases holds : property row = true
        · simp [holds, none_left]
        · simp [holds, none_left]
      · have different : key head ≠ key row := fun same => unique.1 row rest same.symm
        simp [different, ih unique.2 rest]

theorem rowOf_eq_none {rows : List ρ} {k : κ} :
    rowOf key rows k = none ↔ ∀ row ∈ rows, key row ≠ k := by
  simp [rowOf, List.find?_eq_none]

/-- **An update that keeps the keys acts on each row by itself.** -/
theorem rowOf_updateWhere {condition : ρ → Bool} {change : ρ → ρ}
    (keeps : ∀ row, condition row = true → key (change row) = key row) (rows : List ρ) (k : κ) :
    rowOf key (updateWhere condition change rows) k =
      (rowOf key rows k).map fun row => if condition row then change row else row :=
  find?_updateWhere (fun row meets => by rw [keeps row meets]) rows

theorem rowOf_append {rows more : List ρ} {k : κ} :
    rowOf key (rows ++ more) k = (rowOf key rows k).or (rowOf key more k) := by
  simp [rowOf, List.find?_append]

/-- Rows appended under fresh keys do not hide the old ones. -/
theorem rowOf_append_of_some {rows more : List ρ} {k : κ} {row : ρ}
    (found : rowOf key rows k = some row) : rowOf key (rows ++ more) k = some row := by
  rw [rowOf_append, found]
  rfl

/-- Write a row under its key, in place of the old one if there is one. -/
def putRow (key : ρ → κ) (row : ρ) (rows : List ρ) : List ρ :=
  if rows.any (key · = key row) then updateWhere (key · = key row) (fun _ => row) rows
  else rows ++ [row]

/-- The two cases of `putRow`. -/
theorem putRow_cases (key : ρ → κ) (row : ρ) (rows : List ρ) :
    (∃ old ∈ rows, key old = key row) ∧
      putRow key row rows = updateWhere (key · = key row) (fun _ => row) rows ∨
    (∀ old ∈ rows, key old ≠ key row) ∧ putRow key row rows = rows ++ [row] := by
  unfold putRow
  split
  next present =>
    obtain ⟨old, member, same⟩ := List.any_eq_true.mp present
    exact .inl ⟨⟨old, member, of_decide_eq_true same⟩, rfl⟩
  next absent =>
    refine .inr ⟨fun old member same => absent ?_, rfl⟩
    exact List.any_eq_true.mpr ⟨old, member, decide_eq_true same⟩

theorem mem_putRow {row other : ρ} {rows : List ρ} :
    other ∈ putRow key row rows ↔ other = row ∨ other ∈ rows ∧ key other ≠ key row := by
  rcases putRow_cases key row rows with ⟨⟨old, old_member, old_same⟩, put⟩ | ⟨absent, put⟩
  · rw [put, mem_updateWhere]
    constructor
    · rintro ⟨candidate, member, rfl⟩
      by_cases same : key candidate = key row
      · simp [same]
      · simp [same, member]
    · rintro (rfl | ⟨member, different⟩)
      · exact ⟨old, old_member, by simp [old_same]⟩
      · exact ⟨other, member, by simp [different]⟩
  · rw [put, List.mem_append, List.mem_singleton]
    constructor
    · rintro (member | rfl)
      · exact .inr ⟨member, absent other member⟩
      · exact .inl rfl
    · rintro (rfl | ⟨member, _⟩)
      · exact .inr rfl
      · exact .inl member

/-- Writing a row under its key keeps the keys unique. -/
theorem nodup_putRow {row : ρ} {rows : List ρ} (unique : (rows.map key).Nodup) :
    ((putRow key row rows).map key).Nodup := by
  rcases putRow_cases key row rows with ⟨_, put⟩ | ⟨absent, put⟩
  · rw [put, map_updateWhere fun old same => (of_decide_eq_true same).symm]
    exact unique
  · rw [put, List.map_append, List.map_singleton, List.nodup_append]
    refine ⟨unique, List.nodup_singleton _, ?_⟩
    intro k old_key l new_key same
    obtain ⟨old, member, rfl⟩ := List.mem_map.mp old_key
    exact absent old member (same.trans (List.mem_singleton.mp new_key))

/-- **Writing a row under its key changes the row of that key alone.** -/
theorem rowOf_putRow {row : ρ} {rows : List ρ} (k : κ) :
    rowOf key (putRow key row rows) k = if key row = k then some row else rowOf key rows k := by
  rcases putRow_cases key row rows with ⟨⟨old, old_member, old_same⟩, put⟩ | ⟨absent, put⟩
  · rw [put, rowOf_updateWhere fun old same => (of_decide_eq_true same).symm]
    by_cases same : key row = k
    · rw [if_pos same]
      cases found : rowOf key rows k with
      | none => exact absurd (old_same.trans same) (rowOf_eq_none.mp found old old_member)
      | some other => simp [(rowOf_mem found).2, same]
    · rw [if_neg same]
      cases found : rowOf key rows k with
      | none => rfl
      | some other => simp [(rowOf_mem found).2, Ne.symm same]
  · rw [put, rowOf_append]
    by_cases same : key row = k
    · subst same
      rw [rowOf_eq_none.mpr absent]
      simp [rowOf]
    · simp [rowOf, same]

/-- The row of a key in rows that are all changed under their keys. -/
theorem rowOf_map {change : ρ → ρ} (keeps : ∀ row, key (change row) = key row) (rows : List ρ)
    (k : κ) : rowOf key (rows.map change) k = (rowOf key rows k).map change := by
  unfold rowOf
  rw [List.find?_map]
  refine congrArg (fun wanted => (rows.find? wanted).map change) ?_
  funext row
  rw [Function.comp_apply, keeps]

/-- Writing a row and changing all rows under their keys may be swapped. -/
theorem putRow_map {change : ρ → ρ} (keeps : ∀ row, key (change row) = key row) (row : ρ)
    (rows : List ρ) : putRow key (change row) (rows.map change) = (putRow key row rows).map change := by
  have present : (rows.map change).any (fun old => key old = key (change row)) =
      rows.any fun old => key old = key row := by
    rw [List.any_map]
    refine congrArg (fun wanted => rows.any wanted) ?_
    funext old
    rw [Function.comp_apply, keeps, keeps]
  unfold putRow
  rw [present]
  split
  · unfold updateWhere
    rw [List.map_map, List.map_map]
    refine List.map_congr_left fun old _ => ?_
    simp only [Function.comp_apply, keeps]
    split <;> rfl
  · rw [List.map_append, List.map_singleton]

end Keys

/-- The count of a property in a list without repetition is at most its count
in a list that has all the members with that property. -/
theorem countP_le_of_nodup_subset {small large : List ρ} (p : ρ → Bool) (nodup : small.Nodup)
    (subset : ∀ x ∈ small, p x = true → x ∈ large) : small.countP p ≤ large.countP p := by
  rw [List.countP_eq_length_filter, List.countP_eq_length_filter]
  refine (List.subperm_of_subset (nodup.filter p) fun x member => ?_).length_le
  obtain ⟨in_small, holds⟩ := List.mem_filter.mp member
  exact List.mem_filter.mpr ⟨subset x in_small holds, holds⟩

end WolandGuard.Foundations
