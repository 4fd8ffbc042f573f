import WolandGuard.Data.JsonEquality
import WolandGuard.Detection.Fields

/-!
# Filters and groups

A filter accepts a value that is equal to one it names, to Python; events are
grouped by canonical texts. The two agree but where a named value and the value of
the event differ in the forms of numbers only (`acceptsThrough_iff`): a filter for
`1` accepts `true` and `1.0`, whose groups are others.
-/

set_option autoImplicit false

namespace WolandGuard.Detection

open JsonValue

/-- The values that a filter names. -/
def FieldMatcher.values (matcher : FieldMatcher) : List JsonValue :=
  matcher.equals.toList ++ matcher.oneOf.getD []

/-- The filter accepts a value because of one that it names. -/
def FieldMatcher.AcceptsThrough (matcher : FieldMatcher) (named value : JsonValue) : Prop :=
  named ∈ matcher.values ∧ value.pyEq named = true

/-- A filter accepts through the values it names. -/
theorem accepts_iff_acceptsThrough (matcher : FieldMatcher) (value : JsonValue) :
    matcher.accepts value = true ↔ ∃ named, matcher.AcceptsThrough named value := by
  have one := matcher.exactlyOneMatcher
  unfold FieldMatcher.AcceptsThrough FieldMatcher.values FieldMatcher.accepts
  cases equals : matcher.equals with
  | some named =>
      cases oneOf : matcher.oneOf with
      | some allowed =>
          rw [equals, oneOf] at one
          exact absurd rfl one
      | none => simp
  | none =>
      cases oneOf : matcher.oneOf with
      | some allowed => simp
      | none =>
          rw [equals, oneOf] at one
          exact absurd rfl one

/-- **A filter accepts a value through a named one exactly when the two have one
canonical text**, unless they differ in the forms of numbers only. -/
theorem acceptsThrough_iff {matcher : FieldMatcher} {named value : JsonValue}
    (names : named ∈ matcher.values) (unique : UniqueKeys named) (unique' : UniqueKeys value) :
    (matcher.AcceptsThrough named value ↔ canonicalValue named = canonicalValue value) ↔
      ¬ DifferInNumberForms named value := by
  have accepts : matcher.AcceptsThrough named value ↔ named.pyEq value = true := by
    rw [pyEq_iff named value unique unique']
    constructor
    · rintro ⟨_, equal⟩
      exact ((pyEq_iff value named unique' unique).mp equal).symm
    · intro alike
      exact ⟨names, (pyEq_iff value named unique' unique).mpr alike.symm⟩
  rw [accepts]
  exact pyEq_iff_canonicalValue_iff unique unique'

/-- A filter for one value. -/
def equalsMatcher (named : JsonValue) (not_null : named ≠ .null) : FieldMatcher where
  equals := some named
  oneOf := none
  equals_not_null same := not_null (Option.some.inj same)
  exactlyOneMatcher := nofun
  oneOf_nonempty := nofun

/-- A filter for a pair of numbers. -/
def pairMatcher : FieldMatcher := equalsMatcher (.arr [.int 1, .int 22]) nofun

/-- The two agree on a pair with another number, and disagree on one that has `true` for
the first number. -/
theorem acceptsThrough_iff_numbers :
    (pairMatcher.AcceptsThrough (.arr [.int 1, .int 22]) (.arr [.bool true, .int 23]) ↔
        canonicalValue (.arr [.int 1, .int 22]) = canonicalValue (.arr [.bool true, .int 23])) ∧
      ¬ (pairMatcher.AcceptsThrough (.arr [.int 1, .int 22]) (.arr [.bool true, .int 22]) ↔
        canonicalValue (.arr [.int 1, .int 22]) = canonicalValue (.arr [.bool true, .int 22])) := by
  have named : JsonValue.arr [.int 1, .int 22] ∈ pairMatcher.values := List.mem_cons_self
  have unique : UniqueKeys (.arr [.int 1, .int 22]) := ⟨trivial, trivial, trivial⟩
  have other : UniqueKeys (.arr [.bool true, .int 23]) := ⟨trivial, trivial, trivial⟩
  have alike : UniqueKeys (.arr [.bool true, .int 22]) := ⟨trivial, trivial, trivial⟩
  constructor
  · refine (acceptsThrough_iff named unique other).mpr ?_
    rintro ⟨same, _⟩
    simp [content, plain, plainItems, sorted, sortedItems] at same
  · intro agree
    refine (acceptsThrough_iff named unique alike).mp agree ⟨rfl, ?_⟩
    simp [sorted, sortedItems]

/-- A filter for `1` accepts `true`, and the two have different texts. -/
theorem accepts_true_for_one :
    (equalsMatcher (.int 1) nofun).AcceptsThrough (.int 1) (.bool true) ∧
      canonicalValue (.int 1) ≠ canonicalValue (.bool true) :=
  ⟨⟨List.mem_cons_self, rfl⟩, by decide⟩

end WolandGuard.Detection
