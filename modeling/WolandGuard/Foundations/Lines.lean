import Mathlib.Data.List.Basic
import Mathlib.Data.List.Count

/-!
# Lines

The lines of a text are what a separator ends. What stands behind the last
separator (`last_separator`) is not a line yet, and becomes the beginning of the
next one.
-/

set_option autoImplicit false

namespace WolandGuard.Foundations

universe u

variable {α : Type u} [DecidableEq α] (separator : α)

/-- The lines that are ended in a text, where `pending` is the beginning of the
first one. -/
def endedLines (pending : List α) : List α → List (List α)
  | [] => []
  | c :: rest =>
      if c = separator then pending :: endedLines [] rest else endedLines (pending ++ [c]) rest

variable {separator}

/-- Text without a separator belongs to the line that is pending. -/
theorem endedLines_append {pending text rest : List α} (unended : separator ∉ text) :
    endedLines separator pending (text ++ rest) = endedLines separator (pending ++ text) rest := by
  induction text generalizing pending with
  | nil => simp
  | cons c text ih =>
      rw [List.mem_cons, not_or] at unended
      rw [List.cons_append, endedLines, if_neg (Ne.symm unended.1), ih unended.2,
        List.append_assoc, List.singleton_append]

theorem endedLines_eq_nil {text : List α} (unended : separator ∉ text) :
    endedLines separator [] text = [] := by
  have whole := @endedLines_append _ _ separator [] text [] unended
  rwa [List.append_nil] at whole

/-- The first line is what stands before the first separator. -/
theorem endedLines_line {line rest : List α} (unended : separator ∉ line) :
    endedLines separator [] (line ++ separator :: rest) =
      line :: endedLines separator [] rest := by
  rw [endedLines_append unended, endedLines, if_pos rfl, List.nil_append]

/-- Written lines are read back in order. -/
theorem endedLines_lines {lines : List (List α)} {rest : List α}
    (unended : ∀ line ∈ lines, separator ∉ line) :
    endedLines separator [] (lines.flatMap (· ++ [separator]) ++ rest) =
      lines ++ endedLines separator [] rest := by
  induction lines with
  | nil => rfl
  | cons line lines ih =>
      have first := unended line (List.mem_cons_self ..)
      have others := ih fun other member => unended other (List.mem_cons_of_mem _ member)
      rw [List.flatMap_cons, List.append_assoc, List.append_assoc, List.singleton_append,
        endedLines_line first, others, List.cons_append]

/-- There is one line for each separator. -/
theorem length_endedLines (pending text : List α) :
    (endedLines separator pending text).length = text.count separator := by
  induction text generalizing pending with
  | nil => rfl
  | cons c text ih =>
      rw [endedLines]
      by_cases ends : c = separator
      · rw [if_pos ends, List.length_cons, ih, ends, List.count_cons_self]
      · rw [if_neg ends, ih, List.count_cons_of_ne ends]

omit [DecidableEq α] in
/-- A text has one last separator. -/
theorem last_separator {separator : α} {left right front back : List α}
    (unended_right : separator ∉ right) (unended_back : separator ∉ back)
    (same : left ++ separator :: right = front ++ separator :: back) :
    left = front ∧ right = back := by
  rcases List.append_eq_append_iff.mp same with ⟨more, rfl, tail⟩ | ⟨more, rfl, tail⟩
  · cases more with
    | nil => exact ⟨(List.append_nil _).symm, (List.cons.inj tail).2⟩
    | cons c more =>
        refine absurd ?_ unended_right
        rw [(List.cons.inj tail).2]
        exact List.mem_append_right _ (List.mem_cons_self ..)
  · cases more with
    | nil => exact ⟨List.append_nil _, (List.cons.inj tail).2.symm⟩
    | cons c more =>
        refine absurd ?_ unended_back
        rw [(List.cons.inj tail).2]
        exact List.mem_append_right _ (List.mem_cons_self ..)

/-! ## Texts of ended lines -/

/-- The lines of a text stay when more is written. -/
theorem endedLines_isPrefix (pending text more : List α) :
    endedLines separator pending text <+: endedLines separator pending (text ++ more) := by
  induction text generalizing pending with
  | nil => exact List.nil_prefix
  | cons c text ih =>
      rw [List.cons_append, endedLines, endedLines]
      by_cases ends : c = separator
      · rw [if_pos ends, if_pos ends]
        exact (List.prefix_cons_inj pending).mpr (ih [])
      · rw [if_neg ends, if_neg ends]
        exact ih (pending ++ [c])

theorem unended_of_mem {pending text line : List α} (begun : separator ∉ pending)
    (member : line ∈ endedLines separator pending text) : separator ∉ line := by
  induction text generalizing pending with
  | nil => cases member
  | cons c text ih =>
      rw [endedLines] at member
      by_cases ends : c = separator
      · rw [if_pos ends] at member
        rcases List.mem_cons.mp member with rfl | later
        · exact begun
        · exact ih List.not_mem_nil later
      · rw [if_neg ends] at member
        refine ih ?_ member
        rw [List.mem_append, List.mem_singleton, not_or]
        exact ⟨begun, Ne.symm ends⟩

/-- A text is its lines and what is not ended. -/
theorem exists_unended (pending text : List α) (begun : separator ∉ pending) :
    ∃ rest, separator ∉ rest ∧
      pending ++ text = (endedLines separator pending text).flatMap (· ++ [separator]) ++ rest := by
  induction text generalizing pending with
  | nil => exact ⟨pending, begun, by rw [List.append_nil]; rfl⟩
  | cons c text ih =>
      rw [endedLines]
      by_cases ends : c = separator
      · obtain ⟨rest, unended, split⟩ := ih [] List.not_mem_nil
        refine ⟨rest, unended, ?_⟩
        rw [List.nil_append] at split
        rw [if_pos ends, List.flatMap_cons, List.append_assoc, ← split, ends, List.append_assoc,
          List.singleton_append]
      · have pending_unended : separator ∉ pending ++ [c] := by
          rw [List.mem_append, List.mem_singleton, not_or]
          exact ⟨begun, Ne.symm ends⟩
        obtain ⟨rest, unended, split⟩ := ih (pending ++ [c]) pending_unended
        refine ⟨rest, unended, ?_⟩
        rw [if_neg ends, ← split, List.append_assoc, List.singleton_append]

variable (separator)

/-- A text of ended lines only. -/
def Ended (text : List α) : Prop :=
  ∃ lines : List (List α), (∀ line ∈ lines, separator ∉ line) ∧
    text = lines.flatMap (· ++ [separator])

variable {separator}

namespace Ended

omit [DecidableEq α] in
theorem nil : Ended separator [] := ⟨[], List.forall_mem_nil _, rfl⟩

omit [DecidableEq α] in
theorem line {line : List α} (unended : separator ∉ line) : Ended separator (line ++ [separator]) :=
  ⟨[line], List.forall_mem_singleton.mpr unended, (List.flatMap_singleton ..).symm⟩

omit [DecidableEq α] in
theorem append {front back : List α} (first : Ended separator front)
    (second : Ended separator back) : Ended separator (front ++ back) := by
  obtain ⟨lines, unended, rfl⟩ := first
  obtain ⟨others, unended', rfl⟩ := second
  refine ⟨lines ++ others, ?_, List.flatMap_append.symm⟩
  exact List.forall_mem_append.mpr ⟨unended, unended'⟩

/-- What stands behind ended lines has lines of its own. -/
theorem endedLines_append {front : List α} (ended : Ended separator front) (back : List α) :
    endedLines separator [] (front ++ back) =
      endedLines separator [] front ++ endedLines separator [] back := by
  obtain ⟨lines, unended, rfl⟩ := ended
  have alone := @endedLines_lines _ _ _ lines [] unended
  rw [List.append_nil, endedLines, List.append_nil] at alone
  rw [endedLines_lines unended, alone]

/-- Ended lines make up their text. -/
theorem flatMap_endedLines {text : List α} (ended : Ended separator text) :
    (endedLines separator [] text).flatMap (· ++ [separator]) = text := by
  obtain ⟨lines, unended, rfl⟩ := ended
  have alone := @endedLines_lines _ _ _ lines [] unended
  rw [List.append_nil, endedLines, List.append_nil] at alone
  rw [alone]

omit [DecidableEq α] in
/-- Ended lines end with a separator. -/
theorem getLast? {text : List α} (ended : Ended separator text) :
    text = [] ∨ text.getLast? = some separator := by
  obtain ⟨lines, _, rfl⟩ := ended
  cases last : lines.getLast? with
  | none => exact .inl (by rw [List.getLast?_eq_none_iff.mp last]; rfl)
  | some line =>
      obtain ⟨others, rfl⟩ := List.getLast?_eq_some_iff.mp last
      refine .inr ?_
      rw [List.flatMap_append, List.flatMap_singleton, ← List.append_assoc, List.getLast?_concat]

end Ended

end WolandGuard.Foundations
