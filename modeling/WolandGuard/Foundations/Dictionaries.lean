import WolandGuard.Foundations.Rows

/-!
# Dictionaries

A dictionary is a list of entries with different keys, in the order in which
they were first written; `putRow Prod.fst` writes one. What a dictionary says is
the value under every key (`valueOf`), and that determines it up to the order
(`perm_of_valueOf`).
-/

set_option autoImplicit false

namespace WolandGuard.Foundations

universe u v w

variable {κ : Type u} {ν : Type v} [DecidableEq κ]

/-- The value under a key. -/
def valueOf (entries : List (κ × ν)) (k : κ) : Option ν :=
  (rowOf Prod.fst entries k).map Prod.snd

theorem valueOf_eq_none {entries : List (κ × ν)} {k : κ} :
    valueOf entries k = none ↔ k ∉ entries.map Prod.fst := by
  rw [valueOf, Option.map_eq_none_iff, rowOf_eq_none]
  constructor
  · intro absent member
    obtain ⟨entry, there, same⟩ := List.mem_map.mp member
    exact absent entry there same
  · intro absent entry there same
    exact absent (same ▸ List.mem_map_of_mem there)

/-- With unique keys, the entries are what the dictionary says. -/
theorem valueOf_eq_some {entries : List (κ × ν)} (unique : (entries.map Prod.fst).Nodup)
    {k : κ} {value : ν} : valueOf entries k = some value ↔ (k, value) ∈ entries := by
  constructor
  · intro found
    obtain ⟨⟨name, stored⟩, there, rfl⟩ := Option.map_eq_some_iff.mp found
    obtain ⟨member, rfl⟩ := rowOf_mem there
    exact member
  · intro member
    have found : rowOf Prod.fst entries k = some (k, value) := rowOf_of_mem unique member
    rw [valueOf, found]
    rfl

/-- **Writing an entry changes the value of its key alone.** -/
theorem valueOf_putRow (entries : List (κ × ν)) (k : κ) (value : ν) (name : κ) :
    valueOf (putRow Prod.fst (k, value) entries) name =
      if k = name then some value else valueOf entries name := by
  rw [valueOf, rowOf_putRow]
  split
  · rfl
  · rfl

/-- A dictionary restricted to some keys. -/
theorem valueOf_filter (entries : List (κ × ν)) (kept : κ → Bool) (name : κ) :
    valueOf (entries.filter fun entry => kept entry.1) name =
      if kept name then valueOf entries name else none := by
  induction entries with
  | nil =>
      split
      · rfl
      · rfl
  | cons entry rest ih =>
      obtain ⟨k, value⟩ := entry
      by_cases here : k = name
      · subst here
        by_cases keep : kept k = true
        · simp [valueOf, rowOf, keep]
        · have absent : valueOf (rest.filter fun entry => kept entry.1) k = none := by
            rw [ih, if_neg keep]
          simpa [keep] using absent
      · have skip : valueOf ((k, value) :: rest) name = valueOf rest name := by
          simp [valueOf, rowOf, here]
        rw [skip, ← ih, List.filter_cons]
        split
        · simp [valueOf, rowOf, here]
        · rfl

/-- **Two dictionaries that say the same have the same entries.** -/
theorem perm_of_valueOf {left right : List (κ × ν)} (left_unique : (left.map Prod.fst).Nodup)
    (right_unique : (right.map Prod.fst).Nodup)
    (same : ∀ k, valueOf left k = valueOf right k) : left.Perm right := by
  refine (List.perm_ext_iff_of_nodup left_unique.of_map right_unique.of_map).mpr ?_
  intro ⟨k, value⟩
  rw [← valueOf_eq_some left_unique, ← valueOf_eq_some right_unique, same]

theorem valueOf_perm {left right : List (κ × ν)} (unique : (left.map Prod.fst).Nodup)
    (perm : left.Perm right) (k : κ) : valueOf left k = valueOf right k := by
  refine Option.ext fun value => ?_
  rw [valueOf_eq_some unique,
    valueOf_eq_some ((perm.map Prod.fst).nodup_iff.mp unique), perm.mem_iff]

/-- Writing rows under new keys appends them. -/
theorem foldl_putRow {ρ : Type w} {key : ρ → κ} {rows more : List ρ}
    (unique : ((rows ++ more).map key).Nodup) :
    more.foldl (fun table row => putRow key row table) rows = rows ++ more := by
  induction more generalizing rows with
  | nil => exact (List.append_nil rows).symm
  | cons row more ih =>
      have absent : ∀ old ∈ rows, key old ≠ key row := by
        intro old member same
        rw [List.map_append, List.nodup_append] at unique
        exact unique.2.2 _ (List.mem_map_of_mem member) _
          (List.mem_map_of_mem List.mem_cons_self) same
      rcases putRow_cases key row rows with ⟨⟨old, member, same⟩, _⟩ | ⟨_, put⟩
      · exact absurd same (absent old member)
      · rw [List.foldl_cons, put, ih (by simpa using unique), List.append_assoc,
          List.singleton_append]

end WolandGuard.Foundations
