import WolandGuard.Foundations.Regex

/-!
# Patterns that match in one way

In a deterministic pattern the next character tells whether a repetition goes on
and whether an option is taken. Such a pattern matches a text in at most one way
(`Denotes.unique`), also where the text goes on behind the match
(`Denotes.prefix_unique`). The matcher finds every match that there is
(`mem_run_of_denotes`), so on a deterministic pattern a full match is what the
pattern denotes (`fullMatch_eq_some_iff`).
-/

set_option autoImplicit false

namespace WolandGuard.Foundations

namespace Regex

/-! ## First and next characters -/

/-- The pattern may match nothing. -/
def nullable : Regex → Bool
  | literal classes => classes.isEmpty
  | many _ least _ => least == 0
  | seq first second => first.nullable && second.nullable
  | optional _ => true
  | group _ inner => inner.nullable

/-- The characters with which a match may begin. -/
def begins : Regex → Char → Bool
  | literal [], _ => false
  | literal (accepts :: _), c => accepts c
  | many accepts _ _, c => accepts c
  | seq first second, c => first.begins c || (first.nullable && second.begins c)
  | optional inner, c => inner.begins c
  | group _ inner, c => inner.begins c

/-- The characters that may continue what is already a match. -/
def continues : Regex → Char → Bool
  | literal _, _ => false
  | many accepts _ _, c => accepts c
  | seq first second, c => second.continues c || (second.nullable && first.continues c)
  | optional inner, c => inner.begins c || inner.continues c
  | group _ inner, c => inner.continues c

/-- No character both continues a part and begins the part behind it. -/
def Deterministic : Regex → Prop
  | literal _ => True
  | many _ _ _ => True
  | seq first second => first.Deterministic ∧ second.Deterministic ∧
      ∀ c, first.continues c = true → second.begins c = false
  | optional inner => inner.nullable = false ∧ inner.Deterministic
  | group _ inner => inner.Deterministic

/-- The text does not continue a match of the pattern. -/
def Stops (pattern : Regex) (text : List Char) : Prop :=
  ∀ c ∈ text.head?, pattern.continues c = false

theorem stops_nil (pattern : Regex) : pattern.Stops [] := fun _ absent => nomatch absent

theorem stops_cons {pattern : Regex} {c : Char} {text : List Char} :
    pattern.Stops (c :: text) ↔ pattern.continues c = false := by
  constructor
  · intro stops
    exact stops c rfl
  · intro stopped d at_head
    obtain rfl : c = d := Option.some.inj at_head
    exact stopped

theorem nullable_of_denotes {pattern : Regex} {captured : Captures}
    (denotes : pattern.Denotes [] captured) : pattern.nullable = true := by
  induction pattern generalizing captured with
  | literal classes =>
      obtain ⟨_, each⟩ := denotes.of_literal
      cases each
      rfl
  | many accepts least most =>
      cases denotes with
      | many _ enough _ => exact beq_iff_eq.mpr (Nat.le_zero.mp enough)
  | seq first second ih_first ih_second =>
      obtain ⟨left, right, _, _, empty, _, head, tail⟩ := denotes.of_seq
      obtain ⟨rfl, rfl⟩ := List.append_eq_nil_iff.mp empty.symm
      rw [nullable, ih_first head, ih_second tail]
      rfl
  | optional inner _ => rfl
  | group name inner ih =>
      obtain ⟨_, _, inside⟩ := denotes.of_group
      exact ih inside

theorem begins_of_denotes {pattern : Regex} {c : Char} {text : List Char} {captured : Captures}
    (denotes : pattern.Denotes (c :: text) captured) : pattern.begins c = true := by
  induction pattern generalizing text captured with
  | literal classes =>
      obtain ⟨_, each⟩ := denotes.of_literal
      cases each with
      | cons accepted _ => exact accepted
  | many accepts least most => exact denotes.of_many.2 c (List.mem_cons_self ..)
  | seq first second ih_first ih_second =>
      obtain ⟨left, right, _, _, whole, _, head, tail⟩ := denotes.of_seq
      cases left with
      | nil =>
          obtain rfl : c :: text = right := whole
          rw [begins, nullable_of_denotes head, ih_second tail, Bool.true_and, Bool.or_true]
      | cons d left =>
          obtain rfl : c = d := (List.cons.inj whole).1
          rw [begins, ih_first head, Bool.true_or]
  | optional inner ih =>
      rcases denotes.of_optional with ⟨empty, _⟩ | inside
      · cases empty
      · exact ih inside
  | group name inner ih =>
      obtain ⟨_, _, inside⟩ := denotes.of_group
      exact ih inside

/-! ## One way to match -/

/-- Two runs of accepted characters that both stop are the same. -/
theorem run_unique {accepts : Char → Bool} {left right left' right' : List Char}
    (each : ∀ c ∈ left, accepts c = true) (each' : ∀ c ∈ left', accepts c = true)
    (stops : ∀ c ∈ right.head?, accepts c = false) (stops' : ∀ c ∈ right'.head?, accepts c = false)
    (same : left ++ right = left' ++ right') : left = left' := by
  induction left generalizing left' with
  | nil =>
      cases left' with
      | nil => rfl
      | cons d rest =>
          obtain rfl : right = d :: (rest ++ right') := same
          have stopped := stops d rfl
          rw [each' d (List.mem_cons_self ..)] at stopped
          cases stopped
  | cons c left ih =>
      cases left' with
      | nil =>
          obtain rfl : c :: (left ++ right) = right' := same
          have stopped := stops' c rfl
          rw [each c (List.mem_cons_self ..)] at stopped
          cases stopped
      | cons d rest =>
          obtain ⟨rfl, others⟩ := List.cons.inj same
          rw [ih (fun e member => each e (List.mem_cons_of_mem _ member))
            (fun e member => each' e (List.mem_cons_of_mem _ member)) others]

/-- What stands behind the second part and the second part stop the first. -/
theorem stops_first {first second : Regex} {text rest : List Char} {captured : Captures}
    (apart : ∀ c, first.continues c = true → second.begins c = false)
    (denotes : second.Denotes text captured) (stops : (seq first second).Stops rest) :
    first.Stops (text ++ rest) := by
  intro c at_head
  by_contra goes_on
  have continued : first.continues c = true := Bool.of_not_eq_false goes_on
  cases text with
  | nil =>
      have stopped := stops c at_head
      rw [continues, continued, nullable_of_denotes denotes, Bool.true_and, Bool.or_true] at stopped
      cases stopped
  | cons d text =>
      obtain rfl : d = c := Option.some.inj at_head
      have begun := begins_of_denotes denotes
      rw [apart d continued] at begun
      cases begun

/-- **A deterministic pattern matches the beginning of a text in one way**, if the
text does not go on as the match could. -/
theorem Denotes.prefix_unique {pattern : Regex} (deterministic : pattern.Deterministic)
    {left right left' right' : List Char} {captured captured' : Captures}
    (denotes : pattern.Denotes left captured) (denotes' : pattern.Denotes left' captured')
    (stops : pattern.Stops right) (stops' : pattern.Stops right')
    (same : left ++ right = left' ++ right') : left = left' ∧ captured = captured' := by
  induction pattern generalizing left right left' right' captured captured' with
  | literal classes =>
      obtain ⟨rfl, each⟩ := denotes.of_literal
      obtain ⟨rfl, each'⟩ := denotes'.of_literal
      have length : left.length = left'.length := each.length_eq.symm.trans each'.length_eq
      exact ⟨(List.append_inj same length).1, rfl⟩
  | many accepts least most =>
      obtain ⟨rfl, each⟩ := denotes.of_many
      obtain ⟨rfl, each'⟩ := denotes'.of_many
      exact ⟨run_unique each each' stops stops' same, rfl⟩
  | seq first second ih_first ih_second =>
      obtain ⟨first_deterministic, second_deterministic, apart⟩ := deterministic
      obtain ⟨head, tail, _, _, rfl, rfl, head_denotes, tail_denotes⟩ := denotes.of_seq
      obtain ⟨head', tail', _, _, rfl, rfl, head_denotes', tail_denotes'⟩ := denotes'.of_seq
      rw [List.append_assoc, List.append_assoc] at same
      obtain ⟨rfl, rfl⟩ := ih_first first_deterministic head_denotes head_denotes'
        (stops_first apart tail_denotes stops) (stops_first apart tail_denotes' stops') same
      -- what stops the whole stops its last part
      have last : ∀ {text : List Char}, (first.seq second).Stops text → second.Stops text := by
        intro text stopped c at_head
        have either := stopped c at_head
        rw [continues, Bool.or_eq_false_iff] at either
        exact either.1
      obtain ⟨rfl, rfl⟩ := ih_second second_deterministic tail_denotes tail_denotes' (last stops)
        (last stops') (List.append_cancel_left same)
      exact ⟨rfl, rfl⟩
  | optional inner ih =>
      obtain ⟨consumes, inner_deterministic⟩ := deterministic
      have stops_inner : ∀ {text : List Char}, inner.optional.Stops text →
          ∀ c ∈ text.head?, inner.begins c = false ∧ inner.continues c = false := by
        intro text stopped c at_head
        exact Bool.or_eq_false_iff.mp (stopped c at_head)
      -- a match that is not empty begins with a character that would stop the other
      have not_taken : ∀ {taken rest rest' : List Char} {captures : Captures},
          inner.Denotes taken captures → inner.optional.Stops rest → rest = taken ++ rest' →
          False := by
        intro taken rest rest' captures inside stopped split
        cases taken with
        | nil =>
            rw [nullable_of_denotes inside] at consumes
            cases consumes
        | cons c taken =>
            subst split
            have begun := begins_of_denotes inside
            rw [(stops_inner stopped c rfl).1] at begun
            cases begun
      rcases denotes.of_optional with ⟨rfl, rfl⟩ | inside <;>
        rcases denotes'.of_optional with ⟨rfl, rfl⟩ | inside'
      · exact ⟨rfl, rfl⟩
      · exact (not_taken inside' stops same).elim
      · exact (not_taken inside stops' same.symm).elim
      · exact ih inner_deterministic inside inside' (fun c at_head => (stops_inner stops c at_head).2)
          (fun c at_head => (stops_inner stops' c at_head).2) same
  | group name inner ih =>
      obtain ⟨_, rfl, inside⟩ := denotes.of_group
      obtain ⟨_, rfl, inside'⟩ := denotes'.of_group
      obtain ⟨rfl, rfl⟩ := ih deterministic inside inside' stops stops' same
      exact ⟨rfl, rfl⟩

/-- **A deterministic pattern matches a text in one way.** -/
theorem Denotes.unique {pattern : Regex} (deterministic : pattern.Deterministic)
    {text : List Char} {captured captured' : Captures} (denotes : pattern.Denotes text captured)
    (denotes' : pattern.Denotes text captured') : captured = captured' :=
  (denotes.prefix_unique deterministic denotes' (stops_nil _) (stops_nil _) rfl).2

/-! ## The matcher is complete -/

theorem dropClasses_append {classes : List (Char → Bool)} {matched : List Char} (rest : List Char)
    (each : List.Forall₂ (fun accepts c => accepts c = true) classes matched) :
    dropClasses classes (matched ++ rest) = some rest := by
  induction each with
  | nil => rfl
  | cons accepted _ ih => rw [List.cons_append, dropClasses, if_pos accepted, ih]

theorem le_longest {accepts : Char → Bool} {most : Option Nat} {text : List Char}
    (rest : List Char) (each : ∀ c ∈ text, accepts c = true)
    (bounded : ∀ bound ∈ most, text.length ≤ bound) :
    text.length ≤ longest accepts most (text ++ rest) := by
  have available : text.length ≤ ((text ++ rest).takeWhile accepts).length := by
    rw [List.takeWhile_append_of_pos each, List.length_append]
    exact Nat.le_add_right _ _
  cases most with
  | none => exact available
  | some bound => exact Nat.le_min.mpr ⟨available, bounded bound rfl⟩

/-- **What a pattern denotes is among the ways to match.** -/
theorem mem_run_of_denotes {pattern : Regex} {text : List Char} {captured : Captures}
    (denotes : pattern.Denotes text captured) (rest : List Char) :
    (captured, rest) ∈ pattern.run (text ++ rest) := by
  induction denotes generalizing rest with
  | literal each =>
      rw [run, dropClasses_append rest each]
      exact List.mem_singleton.mpr rfl
  | @many accepts least most text each enough bounded =>
      refine List.mem_map.mpr ⟨text.length, ?_, by rw [List.drop_left]⟩
      refine List.mem_filter.mpr ⟨?_, decide_eq_true enough⟩
      exact List.mem_reverse.mpr
        (List.mem_range.mpr (Nat.lt_succ_of_le (le_longest rest each bounded)))
  | seq _ _ ih_first ih_second =>
      rw [run, List.append_assoc]
      refine List.mem_flatMap.mpr ⟨_, ih_first _, ?_⟩
      exact List.mem_map.mpr ⟨_, ih_second rest, rfl⟩
  | skipped => exact List.mem_append_right _ (List.mem_singleton.mpr rfl)
  | taken _ ih => exact List.mem_append_left _ (ih rest)
  | @group name inner text captured _ ih =>
      refine List.mem_map.mpr ⟨_, ih rest, ?_⟩
      dsimp only
      rw [List.length_append, Nat.add_sub_cancel, List.take_left]

/-- A text that a pattern denotes has a full match. -/
theorem exists_fullMatch {pattern : Regex} {text : List Char} {captured : Captures}
    (denotes : pattern.Denotes text captured) :
    ∃ captured', pattern.fullMatch text = some captured' := by
  have way : (captured, []) ∈ pattern.run text := by
    have ends := mem_run_of_denotes denotes []
    rwa [List.append_nil] at ends
  refine Option.isSome_iff_exists.mp ?_
  rw [fullMatch, Option.isSome_map, List.find?_isSome]
  exact ⟨_, way, rfl⟩

/-- **On a deterministic pattern a full match is what the pattern denotes.** -/
theorem fullMatch_eq_some_iff {pattern : Regex} (deterministic : pattern.Deterministic)
    {text : List Char} {captured : Captures} :
    pattern.fullMatch text = some captured ↔ pattern.Denotes text captured := by
  constructor
  · exact denotes_of_fullMatch
  · intro denotes
    obtain ⟨captured', matched⟩ := exists_fullMatch denotes
    rw [matched, (denotes_of_fullMatch matched).unique deterministic denotes]

/-! ## Building matches -/

theorem Denotes.all_nil : Denotes (all []) [] [] := .literal .nil

theorem Denotes.all_cons {first : Regex} {rest : List Regex} {left right : List Char}
    {captured more : Captures} (head : Denotes first left captured)
    (tail : Denotes (all rest) right more) :
    Denotes (all (first :: rest)) (left ++ right) (captured ++ more) :=
  .seq head tail

/-- Given characters. -/
def spelled (text : List Char) : Regex := literal (text.map fun expected c => c = expected)

theorem denotes_spelled (text : List Char) : Denotes (spelled text) text [] := by
  refine .literal (List.forall₂_map_left_iff.mpr ?_)
  exact List.forall₂_same.mpr fun c _ => decide_eq_true rfl

/-- **A part ends at a character that cannot continue it.** -/
theorem deterministic_until {first : Regex} {stop : Char} {text : List Char} {rest : List Regex}
    (head : first.Deterministic) (stops : first.continues stop = false)
    (tail : (all (spelled (stop :: text) :: rest)).Deterministic) :
    (all (first :: spelled (stop :: text) :: rest)).Deterministic := by
  refine ⟨head, tail, ?_⟩
  intro c continued
  change (decide (c = stop) || (false && _)) = false
  rw [Bool.false_and, Bool.or_false]
  refine decide_eq_false ?_
  rintro rfl
  rw [stops] at continued
  cases continued

/-- Given characters end by themselves. -/
theorem deterministic_spelled {text : List Char} {rest : List Regex}
    (tail : (all rest).Deterministic) : (all (spelled text :: rest)).Deterministic :=
  ⟨trivial, tail, fun _ continued => nomatch continued⟩

theorem deterministic_nil : (all []).Deterministic := trivial

/-- One given character. -/
def exactly (expected : Char) : Regex := literal [fun c => c = expected]

theorem denotes_exactly (expected : Char) : Denotes (exactly expected) [expected] [] :=
  .literal (.cons (decide_eq_true rfl) .nil)

/-- A named repetition. -/
theorem denotes_named {name : String} {accepts : Char → Bool} {least : Nat} {most : Option Nat}
    {text : List Char} (each : ∀ c ∈ text, accepts c = true) (enough : least ≤ text.length)
    (bounded : ∀ bound ∈ most, text.length ≤ bound) :
    Denotes (group name (many accepts least most)) text [(name, text)] :=
  .group (.many each enough bounded)

end Regex

end WolandGuard.Foundations
