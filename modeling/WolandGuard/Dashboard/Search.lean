import Mathlib.Data.List.Infix

/-!
# Literal prefix search

`literal_prefix_pattern` escapes what `LIKE` treats specially, and appends the one
wildcard that is meant. Its three replacements, the escape character first, escape
each character once (`literalPrefixPattern_eq_replaced`), so that the pattern is an
exact prefix test, also when pattern and text are both lower-cased
(`literal_prefix_exact`).
-/

set_option autoImplicit false

namespace WolandGuard.Dashboard

/-- `LIKE_ESCAPE_CHARACTER`. -/
def likeEscapeCharacter : Char := '!'

/-- A character of a pattern that stands for itself. -/
def escapeLike (c : Char) : List Char :=
  if c = likeEscapeCharacter || c = '%' || c = '_' then [likeEscapeCharacter, c] else [c]

/-- `literal_prefix_pattern`. -/
def literalPrefixPattern (value : String) : String :=
  String.ofList (value.toList.flatMap escapeLike ++ ['%'])

/-- `text LIKE pattern ESCAPE '!'`. -/
def like : List Char → List Char → Bool
  | [], text => text.isEmpty
  | '!' :: c :: pattern, text =>
      match text with
      | [] => false
      | first :: rest => first = c && like pattern rest
  | '!' :: [], _ => false
  | '_' :: pattern, text =>
      match text with
      | [] => false
      | _ :: rest => like pattern rest
  | '%' :: pattern, text => text.tails.any fun rest => like pattern rest
  | c :: pattern, text =>
      match text with
      | [] => false
      | first :: rest => first = c && like pattern rest

theorem like_escape_cons (c : Char) (pattern text : List Char) :
    like (escapeLike c ++ pattern) text =
      match text with
      | [] => false
      | first :: rest => decide (first = c) && like pattern rest := by
  unfold escapeLike
  split
  · cases text with
    | nil => rfl
    | cons first rest => rfl
  next plain =>
    simp only [likeEscapeCharacter, Bool.or_eq_true, decide_eq_true_iff, not_or] at plain
    obtain ⟨⟨not_escape, not_any⟩, not_one⟩ := plain
    rw [List.singleton_append, like.eq_def]
    split
    next same => cases same
    next same => exact absurd (decide_eq_true (List.cons.inj same).1) not_escape
    next same => exact absurd (decide_eq_true (List.cons.inj same).1) not_escape
    next same => exact absurd (List.cons.inj same).1 not_one
    next same => exact absurd (List.cons.inj same).1 not_any
    next same =>
      obtain ⟨rfl, rfl⟩ := List.cons.inj same
      rfl

/-- **A search matches the texts that begin with it**: what is escaped stands for
itself, and the wildcard for the rest. -/
theorem like_escaped (value text : List Char) :
    like (value.flatMap escapeLike ++ ['%']) text = value.isPrefixOf text := by
  induction value generalizing text with
  | nil =>
      have empty_tail : [] ∈ text.tails := (List.mem_tails _ _).mpr List.nil_suffix
      rw [List.flatMap_nil, List.nil_append, like]
      exact List.any_eq_true.mpr ⟨[], empty_tail, rfl⟩
  | cons c value ih =>
      rw [List.flatMap_cons, List.append_assoc, like_escape_cons]
      cases text with
      | nil => rfl
      | cons first rest =>
          dsimp only
          rw [ih, List.isPrefixOf_cons_cons]
          congr 1
          rw [Bool.eq_iff_iff, decide_eq_true_iff, beq_iff_eq, eq_comm]

/-! ## The three replacements -/

/-- `text.replace(old, new)` of one character. -/
def replaceChar (old : Char) (new text : List Char) : List Char :=
  text.flatMap fun c => if c = old then new else [c]

/-- The body of `literal_prefix_pattern`: one replacement after the other. -/
def replacedPattern (value : String) : String :=
  let doubled := replaceChar likeEscapeCharacter [likeEscapeCharacter, likeEscapeCharacter]
    value.toList
  let escaped := replaceChar '_' [likeEscapeCharacter, '_']
    (replaceChar '%' [likeEscapeCharacter, '%'] doubled)
  String.ofList (escaped ++ ['%'])

/-- **The replacements escape each character once**: the escape characters that the
later ones insert are not doubled, since theirs is the first. -/
theorem literalPrefixPattern_eq_replaced (value : String) :
    replacedPattern value = literalPrefixPattern value := by
  rw [replacedPattern, literalPrefixPattern]
  congr 2
  rw [replaceChar, replaceChar, replaceChar, List.flatMap_assoc, List.flatMap_assoc]
  congr 1
  funext c
  by_cases escape : c = '!'
  · subst escape
    rfl
  by_cases any : c = '%'
  · subst any
    rfl
  by_cases one : c = '_'
  · subst one
    rfl
  simp [escapeLike, likeEscapeCharacter, escape, any, one]

/-! ## Lower-casing -/

/-- The characters that `LIKE` treats specially. -/
def likeWildcards : List Char := [likeEscapeCharacter, '%', '_']

/-- A lower-casing, character by character, under which the special characters stay
and none arises. -/
structure KeepsWildcards (lower : Char → List Char) : Prop where
  fixes {c : Char} : c ∈ likeWildcards → lower c = [c]
  produces {c d : Char} : c ∉ likeWildcards → d ∈ lower c → d ∉ likeWildcards

theorem escapeLike_of_mem {c : Char} (special : c ∈ likeWildcards) :
    escapeLike c = [likeEscapeCharacter, c] := by
  simp only [likeWildcards, List.mem_cons, List.not_mem_nil, or_false] at special
  rw [escapeLike, if_pos]
  simpa [or_assoc] using special

theorem escapeLike_of_notMem {c : Char} (plain : c ∉ likeWildcards) : escapeLike c = [c] := by
  simp only [likeWildcards, List.mem_cons, List.not_mem_nil, or_false] at plain
  rw [escapeLike, if_neg]
  simpa [or_assoc] using plain

/-- **The lower-cased pattern is the pattern of the lower-cased text.** -/
theorem lowered_pattern {lower : Char → List Char} (keeps : KeepsWildcards lower)
    (value : List Char) : (value.flatMap escapeLike ++ ['%']).flatMap lower =
      (value.flatMap lower).flatMap escapeLike ++ ['%'] := by
  have wildcard : lower '%' = ['%'] := keeps.fixes (by decide)
  rw [List.flatMap_append, List.flatMap_singleton, wildcard]
  congr 1
  rw [List.flatMap_assoc, List.flatMap_assoc]
  congr 1
  funext c
  by_cases special : c ∈ likeWildcards
  · have escape : lower likeEscapeCharacter = [likeEscapeCharacter] := keeps.fixes (by decide)
    rw [escapeLike_of_mem special, List.flatMap_cons, List.flatMap_singleton, escape,
      keeps.fixes special, List.flatMap_singleton, escapeLike_of_mem special]
    rfl
  · have plain : (lower c).flatMap escapeLike = (lower c).flatMap fun d => [d] := by
      apply List.flatMap_congr
      intro d member
      exact escapeLike_of_notMem (keeps.produces special member)
    rw [escapeLike_of_notMem special, List.flatMap_singleton, plain, List.flatMap_singleton']

/-- **The pattern is an exact prefix test**, and so it is when both it and the text
are lower-cased. -/
theorem literal_prefix_exact (value text : String) :
    (like (replacedPattern value).toList text.toList = true ↔ value.toList <+: text.toList) ∧
      ∀ lower : Char → List Char, KeepsWildcards lower →
        (like ((replacedPattern value).toList.flatMap lower) (text.toList.flatMap lower) = true ↔
          value.toList.flatMap lower <+: text.toList.flatMap lower) := by
  have pattern : (replacedPattern value).toList = value.toList.flatMap escapeLike ++ ['%'] := by
    rw [literalPrefixPattern_eq_replaced, literalPrefixPattern, String.toList_ofList]
  constructor
  · rw [pattern, like_escaped, List.isPrefixOf_iff_prefix]
  · intro lower keeps
    rw [pattern, lowered_pattern keeps, like_escaped, List.isPrefixOf_iff_prefix]

/-- The lower-casing of ASCII keeps the special characters. -/
theorem keepsWildcards_toLower : KeepsWildcards fun c => [c.toLower] where
  fixes := by
    intro c special
    simp only [likeWildcards, List.mem_cons, List.not_mem_nil, or_false] at special
    rcases special with rfl | rfl | rfl
    all_goals rfl
  produces := by
    intro c d plain lowered
    obtain rfl := List.mem_singleton.mp lowered
    by_cases upper : 'A'.val ≤ c.val ∧ c.val ≤ 'Z'.val
    · -- a letter of lower case is none of them
      intro special
      have low : 65 ≤ c.toNat := upper.1
      have high : c.toNat ≤ 90 := upper.2
      have code : c.toLower.toNat = c.toNat + 32 := by
        have small : c.toNat + 32 < 2 ^ 32 := by omega
        have lowered : c.toLower.toNat = (c.val + 32).toNat :=
          congrArg Char.toNat (dif_pos upper)
        rw [lowered]
        rw [UInt32.toNat_add]
        exact Nat.mod_eq_of_lt small
      simp only [likeWildcards, List.mem_cons, List.not_mem_nil, or_false] at special
      rcases special with same | same | same
      all_goals
        have number := congrArg Char.toNat same
        rw [code] at number
        revert number
        simp only [likeEscapeCharacter, Char.reduceToNat]
        omega
    · have same : c.toLower = c := dif_neg upper
      rw [same]
      exact plain

/-- A search for `10%_OFF!` finds the texts that begin with it in whatever case. -/
theorem literal_prefix_exact_discount :
    like ((replacedPattern "10%_OFF!").toList.flatMap fun c => [c.toLower])
        ("10%_off! today".toList.flatMap fun c => [c.toLower]) = true ∧
      like ((replacedPattern "10%_OFF!").toList.flatMap fun c => [c.toLower])
        ("100_off! today".toList.flatMap fun c => [c.toLower]) = false := by
  have exact := fun text =>
    (literal_prefix_exact "10%_OFF!" text).2 (fun c => [c.toLower]) keepsWildcards_toLower
  constructor
  · exact (exact "10%_off! today").mpr (by decide)
  · exact Bool.eq_false_iff.mpr fun found => absurd ((exact "100_off! today").mp found) (by decide)

end WolandGuard.Dashboard
