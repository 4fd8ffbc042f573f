import Mathlib.Data.List.Basic
import Mathlib.Data.List.Count

/-!
# Texts of parts

A text is cut at every separator into parts, none of which has the separator
(`notMem_of_mem_splitOn`), or once, at the first separator (`cutFirst`). Joining
undoes cutting, and cutting undoes joining.
-/

set_option autoImplicit false

namespace WolandGuard.Foundations

universe u

variable {α : Type u} [DecidableEq α] {separator : α}

/-- What stands in front of the first separator, and what stands behind it. -/
def cutFirst (separator : α) : List α → Option (List α × List α)
  | [] => none
  | c :: rest =>
      if c = separator then some ([], rest)
      else (cutFirst separator rest).map fun parts => (c :: parts.1, parts.2)

/-- **A text is cut where its two parts were joined.** -/
theorem cutFirst_eq_some {text front back : List α} :
    cutFirst separator text = some (front, back) ↔
      text = front ++ separator :: back ∧ separator ∉ front := by
  induction text generalizing front with
  | nil => simp [cutFirst]
  | cons c rest ih =>
      rw [cutFirst]
      split
      next ends =>
        subst ends
        constructor
        · intro cut
          obtain ⟨rfl, rfl⟩ := Prod.mk.inj (Option.some.inj cut)
          exact ⟨rfl, List.not_mem_nil⟩
        · rintro ⟨whole, absent⟩
          cases front with
          | nil => rw [(List.cons.inj whole).2]
          | cons d front => simp [(List.cons.inj whole).1] at absent
      next other =>
        rw [Option.map_eq_some_iff]
        constructor
        · rintro ⟨⟨before, after⟩, cut, same⟩
          obtain ⟨rfl, rfl⟩ := Prod.mk.inj same
          obtain ⟨rfl, absent⟩ := ih.mp cut
          exact ⟨rfl, List.not_mem_cons_of_ne_of_not_mem (Ne.symm other) absent⟩
        · rintro ⟨whole, absent⟩
          cases front with
          | nil => exact absurd (List.cons.inj whole).1 other
          | cons d front =>
              obtain ⟨rfl, tail⟩ := List.cons.inj whole
              rw [List.mem_cons, not_or] at absent
              exact ⟨(front, back), ih.mpr ⟨tail, absent.2⟩, rfl⟩

/-- The parts of a text do not have the separator. -/
theorem notMem_of_mem_splitOn {text part : List α} (member : part ∈ text.splitOn separator) :
    separator ∉ part := by
  induction text generalizing part with
  | nil =>
      rw [List.splitOn_nil, List.mem_singleton] at member
      rw [member]
      exact List.not_mem_nil
  | cons c rest ih =>
      rw [List.splitOn_cons_eq_if_modifyHead] at member
      split at member
      · rcases List.mem_cons.mp member with rfl | later
        · exact List.not_mem_nil
        · exact ih later
      next other =>
        obtain ⟨head, tail, parts⟩ := List.exists_cons_of_ne_nil (List.splitOn_ne_nil separator rest)
        rw [parts, List.modifyHead_cons, List.mem_cons] at member
        rcases member with rfl | later
        · rw [List.mem_cons, not_or]
          refine ⟨fun same => other (beq_iff_eq.mpr same.symm), ih ?_⟩
          rw [parts]
          exact List.mem_cons_self ..
        · refine ih ?_
          rw [parts]
          exact List.mem_cons_of_mem _ later

/-- There is one part more than there are separators. -/
theorem length_splitOn (text : List α) :
    (text.splitOn separator).length = text.count separator + 1 := by
  induction text with
  | nil => rw [List.splitOn_nil, List.length_singleton, List.count_nil]
  | cons c rest ih =>
      rw [List.splitOn_cons_eq_if_modifyHead]
      split
      next ends =>
        rw [beq_iff_eq] at ends
        rw [List.length_cons, ih, ends, List.count_cons_self]
      next other =>
        rw [beq_iff_eq] at other
        rw [List.length_modifyHead, ih, List.count_cons_of_ne other]

end WolandGuard.Foundations
