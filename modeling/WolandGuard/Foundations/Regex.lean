import Mathlib.Data.List.Forall2
import Mathlib.Data.List.TakeWhile

/-!
# Regular expressions with groups

Patterns over single characters, and what a backtracking matcher makes of them:
`run` lists all ways to match the beginning of a text, in the order in which the
matcher tries them, with the groups that each captures. `Denotes` says what
a text that was matched looks like. A full match is the first of these ways that
leaves nothing (`denotes_of_fullMatch`).
-/

set_option autoImplicit false

namespace WolandGuard.Foundations

/-- A pattern. Repetitions are of single characters, and greedy like `optional`. -/
inductive Regex where
  /-- One character of each class. -/
  | literal (classes : List (Char → Bool))
  | many (accepts : Char → Bool) (least : Nat) (most : Option Nat)
  | seq (first second : Regex)
  | optional (inner : Regex)
  | group (name : String) (inner : Regex)

abbrev Captures := List (String × List Char)

namespace Regex

/-- Patterns one after the other. -/
def all (patterns : List Regex) : Regex := patterns.foldr seq (literal [])

/-- What is left of a text behind one character of each class. -/
def dropClasses : List (Char → Bool) → List Char → Option (List Char)
  | [], text => some text
  | accepts :: classes, c :: text => if accepts c then dropClasses classes text else none
  | _ :: _, [] => none

/-- How many characters a repetition takes at most. -/
def longest (accepts : Char → Bool) (most : Option Nat) (text : List Char) : Nat :=
  let run := (text.takeWhile accepts).length
  most.elim run (min run)

/-- The ways to match the beginning of a text, and what each leaves. -/
def run : Regex → List Char → List (Captures × List Char)
  | literal classes, text => (dropClasses classes text).toList.map ([], ·)
  | many accepts least most, text =>
      ((List.range (longest accepts most text + 1)).reverse.filter (least ≤ ·)).map fun count =>
        ([], text.drop count)
  | seq first second, text =>
      (first.run text).flatMap fun (captured, rest) =>
        (second.run rest).map fun (more, left) => (captured ++ more, left)
  | optional inner, text => inner.run text ++ [([], text)]
  | group name inner, text =>
      (inner.run text).map fun (captured, rest) =>
        ((name, text.take (text.length - rest.length)) :: captured, rest)

/-- `fullmatch`. -/
def fullMatch (pattern : Regex) (text : List Char) : Option Captures :=
  ((pattern.run text).find? (·.2.isEmpty)).map Prod.fst

/-- The texts that a pattern matches, with the groups captured. -/
inductive Denotes : Regex → List Char → Captures → Prop where
  | literal {classes : List (Char → Bool)} {text : List Char} :
      List.Forall₂ (fun accepts c => accepts c = true) classes text →
      Denotes (literal classes) text []
  | many {accepts : Char → Bool} {least : Nat} {most : Option Nat} {text : List Char} :
      (∀ c ∈ text, accepts c = true) → least ≤ text.length →
      (∀ bound ∈ most, text.length ≤ bound) → Denotes (many accepts least most) text []
  | seq {first second : Regex} {left right : List Char} {captured more : Captures} :
      Denotes first left captured → Denotes second right more →
      Denotes (seq first second) (left ++ right) (captured ++ more)
  | skipped {inner : Regex} : Denotes (optional inner) [] []
  | taken {inner : Regex} {text : List Char} {captured : Captures} :
      Denotes inner text captured → Denotes (optional inner) text captured
  | group {name : String} {inner : Regex} {text : List Char} {captured : Captures} :
      Denotes inner text captured → Denotes (group name inner) text ((name, text) :: captured)

section Inversion

variable {text : List Char} {captured : Captures}

theorem Denotes.of_literal {classes : List (Char → Bool)}
    (denotes : Denotes (Regex.literal classes) text captured) :
    captured = [] ∧ List.Forall₂ (fun accepts c => accepts c = true) classes text := by
  cases denotes with
  | literal each => exact ⟨rfl, each⟩

theorem Denotes.of_many {accepts : Char → Bool} {least : Nat} {most : Option Nat}
    (denotes : Denotes (Regex.many accepts least most) text captured) :
    captured = [] ∧ ∀ c ∈ text, accepts c = true := by
  cases denotes with
  | many each _ _ => exact ⟨rfl, each⟩

theorem Denotes.of_seq {first second : Regex} (denotes : Denotes (first.seq second) text captured) :
    ∃ left right captures more, text = left ++ right ∧ captured = captures ++ more ∧
      Denotes first left captures ∧ Denotes second right more := by
  cases denotes with
  | seq head tail => exact ⟨_, _, _, _, rfl, rfl, head, tail⟩

theorem Denotes.of_optional {inner : Regex} (denotes : Denotes inner.optional text captured) :
    text = [] ∧ captured = [] ∨ Denotes inner text captured := by
  cases denotes with
  | skipped => exact .inl ⟨rfl, rfl⟩
  | taken inside => exact .inr inside

theorem Denotes.of_group {name : String} {inner : Regex}
    (denotes : Denotes (Regex.group name inner) text captured) :
    ∃ more, captured = (name, text) :: more ∧ Denotes inner text more := by
  cases denotes with
  | group inside => exact ⟨_, rfl, inside⟩

/-- Patterns one after the other match one part each. -/
theorem Denotes.of_all_cons {first : Regex} {rest : List Regex}
    (denotes : Denotes (all (first :: rest)) text captured) :
    ∃ left right captures more, text = left ++ right ∧ captured = captures ++ more ∧
      Denotes first left captures ∧ Denotes (all rest) right more :=
  denotes.of_seq

theorem Denotes.of_all_nil (denotes : Denotes (all []) text captured) :
    captured = [] ∧ text = [] := by
  obtain ⟨nothing, each⟩ := Denotes.of_literal denotes
  cases each
  exact ⟨nothing, rfl⟩

end Inversion

/-! ## The matcher is sound -/

theorem dropClasses_spec {classes : List (Char → Bool)} {text rest : List Char}
    (dropped : dropClasses classes text = some rest) :
    ∃ matched, text = matched ++ rest ∧
      List.Forall₂ (fun accepts c => accepts c = true) classes matched := by
  induction classes generalizing text with
  | nil =>
      cases dropped
      exact ⟨[], rfl, .nil⟩
  | cons accepts classes ih =>
      cases text with
      | nil => cases dropped
      | cons c text =>
          rw [dropClasses] at dropped
          split at dropped
          next accepted =>
            obtain ⟨matched, rfl, each⟩ := ih dropped
            exact ⟨c :: matched, rfl, .cons accepted each⟩
          · cases dropped

theorem longest_le (accepts : Char → Bool) (most : Option Nat) (text : List Char) :
    longest accepts most text ≤ (text.takeWhile accepts).length ∧
      ∀ bound ∈ most, longest accepts most text ≤ bound := by
  cases most with
  | none => exact ⟨Nat.le_refl _, fun bound absent => nomatch absent⟩
  | some limit =>
      refine ⟨Nat.min_le_left _ _, ?_⟩
      intro bound present
      obtain rfl := Option.some.inj present
      exact Nat.min_le_right _ _

/-- **What the matcher takes from a text is matched by the pattern.** -/
theorem denotes_of_run {pattern : Regex} {text rest : List Char} {captured : Captures}
    (way : (captured, rest) ∈ pattern.run text) :
    ∃ matched, text = matched ++ rest ∧ pattern.Denotes matched captured := by
  induction pattern generalizing text rest captured with
  | literal classes =>
      simp only [run, List.mem_map, Option.mem_toList] at way
      obtain ⟨left, dropped, same⟩ := way
      cases same
      obtain ⟨matched, split, each⟩ := dropClasses_spec dropped
      exact ⟨matched, split, .literal each⟩
  | many accepts least most =>
      simp only [run, List.mem_map, List.mem_filter, List.mem_reverse, List.mem_range,
        decide_eq_true_eq] at way
      obtain ⟨count, ⟨within, enough⟩, same⟩ := way
      cases same
      obtain ⟨available, bounded⟩ := longest_le accepts most text
      -- the characters taken are the first of those that the class accepts
      have among : text.take count = (text.takeWhile accepts).take count := by
        have split : text.takeWhile accepts ++ text.dropWhile accepts = text :=
          List.takeWhile_append_dropWhile
        have inside : count ≤ (text.takeWhile accepts).length := by omega
        rw [← List.take_append_of_le_length inside, split]
      have length : (text.take count).length = count := by
        rw [among, List.length_take]
        omega
      refine ⟨text.take count, (List.take_append_drop count text).symm, .many ?_ ?_ ?_⟩
      · intro c member
        rw [among] at member
        exact List.mem_takeWhile_imp (List.mem_of_mem_take member)
      · omega
      · intro bound present
        have := bounded bound present
        omega
  | seq first second ih_first ih_second =>
      simp only [run, List.mem_flatMap, List.mem_map, Prod.exists] at way
      obtain ⟨captures, middle, first_way, more, left, second_way, same⟩ := way
      cases same
      obtain ⟨head, rfl, head_denotes⟩ := ih_first first_way
      obtain ⟨tail, rfl, tail_denotes⟩ := ih_second second_way
      exact ⟨head ++ tail, by rw [List.append_assoc], .seq head_denotes tail_denotes⟩
  | optional inner ih =>
      rw [run, List.mem_append] at way
      rcases way with taken | skipped
      · obtain ⟨matched, split, denotes⟩ := ih taken
        exact ⟨matched, split, .taken denotes⟩
      · cases List.mem_singleton.mp skipped
        exact ⟨[], rfl, .skipped⟩
  | group name inner ih =>
      simp only [run, List.mem_map, Prod.exists] at way
      obtain ⟨inside, left, inner_way, same⟩ := way
      cases same
      obtain ⟨matched, rfl, denotes⟩ := ih inner_way
      refine ⟨matched, rfl, ?_⟩
      have whole : (matched ++ rest).take ((matched ++ rest).length - rest.length) = matched := by
        rw [List.length_append, Nat.add_sub_cancel, List.take_left]
      rw [whole]
      exact .group denotes

/-- **A full match matches the text.** -/
theorem denotes_of_fullMatch {pattern : Regex} {text : List Char} {captured : Captures}
    (matched : pattern.fullMatch text = some captured) : pattern.Denotes text captured := by
  unfold fullMatch at matched
  obtain ⟨⟨captures, rest⟩, found, same⟩ := Option.map_eq_some_iff.mp matched
  obtain rfl : captures = captured := same
  obtain ⟨whole, split, denotes⟩ := denotes_of_run (List.mem_of_find?_eq_some found)
  have empty : rest.isEmpty = true := @List.find?_some _ _ (captures, rest) _ found
  have nothing : rest = [] := List.isEmpty_iff.mp empty
  rw [split, nothing, List.append_nil]
  exact denotes

/-! ## Searching -/

/-- The first way to match the beginning of a text behind which the rest may stand. -/
def matchBefore (pattern : Regex) (follows : List Char → Bool) (text : List Char) :
    Option Captures :=
  ((pattern.run text).find? (follows ·.2)).map Prod.fst

/-- `search`: the first place at which an attempt succeeds. An attempt sees the
character before its place and the text behind it. -/
def search (attempt : Option Char → List Char → Option Captures) :
    Option Char → List Char → Option Captures
  | previous, [] => attempt previous []
  | previous, c :: rest => (attempt previous (c :: rest)).or (search attempt (some c) rest)

/-- **A match at the beginning matches a part of the text.** -/
theorem denotes_of_matchBefore {pattern : Regex} {follows : List Char → Bool} {text : List Char}
    {captured : Captures} (matched : pattern.matchBefore follows text = some captured) :
    ∃ part, part <+: text ∧ pattern.Denotes part captured := by
  obtain ⟨⟨captures, rest⟩, found, same⟩ := Option.map_eq_some_iff.mp matched
  obtain rfl : captures = captured := same
  obtain ⟨part, split, denotes⟩ := denotes_of_run (List.mem_of_find?_eq_some found)
  exact ⟨part, ⟨rest, split.symm⟩, denotes⟩

/-- A search succeeds at some place. -/
theorem exists_of_search {attempt : Option Char → List Char → Option Captures}
    {previous : Option Char} {text : List Char} {captured : Captures}
    (found : search attempt previous text = some captured) :
    ∃ before rest, rest <:+ text ∧ attempt before rest = some captured := by
  induction text generalizing previous with
  | nil => exact ⟨previous, [], List.suffix_rfl, found⟩
  | cons c rest ih =>
      rw [search, Option.or_eq_some_iff] at found
      rcases found with here | ⟨_, later⟩
      · exact ⟨previous, c :: rest, List.suffix_rfl, here⟩
      · obtain ⟨before, tail, inside, succeeded⟩ := ih later
        exact ⟨before, tail, inside.trans (List.suffix_cons c rest), succeeded⟩

/-! ## Captured groups -/

/-- The groups of a pattern and what they match. -/
def groups : Regex → List (String × Regex)
  | literal _ => []
  | many _ _ _ => []
  | seq first second => first.groups ++ second.groups
  | optional inner => inner.groups
  | group name inner => (name, inner) :: inner.groups

/-- The groups of patterns one after the other are the groups of each. -/
theorem groups_all (patterns : List Regex) :
    (all patterns).groups = patterns.flatMap groups := by
  induction patterns with
  | nil => rfl
  | cons first rest ih => rw [List.flatMap_cons, ← ih, all, List.foldr_cons, groups, all]

/-- **A captured part is a part of the text, and was matched by its group.** -/
theorem Denotes.of_captured {pattern : Regex} {text part : List Char} {captured : Captures}
    {name : String} (denotes : Denotes pattern text captured) (member : (name, part) ∈ captured) :
    part ⊆ text ∧ ∃ inner more, (name, inner) ∈ pattern.groups ∧ Denotes inner part more := by
  induction denotes with
  | literal each => cases member
  | many each least most => cases member
  | seq head tail ih_head ih_tail =>
      rcases List.mem_append.mp member with here | there
      · obtain ⟨inside, inner, more, among, matched⟩ := ih_head here
        exact ⟨fun c within => List.mem_append_left _ (inside within), inner, more,
          List.mem_append_left _ among, matched⟩
      · obtain ⟨inside, inner, more, among, matched⟩ := ih_tail there
        exact ⟨fun c within => List.mem_append_right _ (inside within), inner, more,
          List.mem_append_right _ among, matched⟩
  | skipped => cases member
  | taken inside ih => exact ih member
  | group inside ih =>
      rcases List.mem_cons.mp member with same | deeper
      · cases same
        exact ⟨fun _ within => within, _, _, List.mem_cons_self, inside⟩
      · obtain ⟨within, inner, more, among, matched⟩ := ih deeper
        exact ⟨within, inner, more, List.mem_cons_of_mem _ among, matched⟩

end Regex

end WolandGuard.Foundations
