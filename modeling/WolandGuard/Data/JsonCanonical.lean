import WolandGuard.Data.JsonRoundTrip

/-!
# Values in canonical order

The canonical text of a value is the text of the value with the keys of all its
objects in ascending order (`sorted`), and that is the value it is read back as. So
two values have one canonical text exactly when they agree up to the order of keys,
and a text that is its own canonical form is the text of a value in order.
-/

set_option autoImplicit false

namespace WolandGuard.JsonValue

/-! ## Sorting the keys -/

def memberOrder (left right : String × JsonValue) : Prop := left.1 ≤ right.1

instance (left right : String × JsonValue) : Decidable (memberOrder left right) :=
  inferInstanceAs (Decidable (left.1 ≤ right.1))

instance : Std.Total memberOrder := ⟨fun left right => String.le_total left.1 right.1⟩

instance : IsTrans (String × JsonValue) memberOrder := ⟨fun _ _ _ => String.le_trans⟩

mutual

def sorted : JsonValue → JsonValue
  | .null => .null
  | .bool value => .bool value
  | .int value => .int value
  | .float value => .float value
  | .str text => .str text
  | .arr items => .arr (sortedItems items)
  | .obj members => .obj ((sortedMembers members).insertionSort memberOrder)

def sortedItems : List JsonValue → List JsonValue
  | [] => []
  | item :: rest => item.sorted :: sortedItems rest

def sortedMembers : List (String × JsonValue) → List (String × JsonValue)
  | [] => []
  | (key, value) :: rest => (key, value.sorted) :: sortedMembers rest

end

theorem canonicalMembers_eq (members : List (String × JsonValue)) :
    canonicalMembers members = members.map fun member => (member.1, canonicalValue member.2) := by
  induction members with
  | nil => rfl
  | cons member rest ih =>
      obtain ⟨key, value⟩ := member
      rw [canonicalMembers, ih, List.map_cons]

theorem sortedMembers_eq (members : List (String × JsonValue)) :
    sortedMembers members = members.map fun member => (member.1, member.2.sorted) := by
  induction members with
  | nil => rfl
  | cons member rest ih =>
      obtain ⟨key, value⟩ := member
      rw [sortedMembers, ih, List.map_cons]

theorem keys_sortedMembers (members : List (String × JsonValue)) :
    (sortedMembers members).map Prod.fst = members.map Prod.fst := by
  rw [sortedMembers_eq, List.map_map]
  rfl

instance : Std.Total fun left right : String × String => keyOrder left right = true :=
  ⟨fun left right => (String.le_total left.1 right.1).imp decide_eq_true decide_eq_true⟩

instance : IsTrans (String × String) fun left right => keyOrder left right = true :=
  ⟨fun _ _ _ first second => decide_eq_true
    (String.le_trans (of_decide_eq_true first) (of_decide_eq_true second))⟩

/-- Sorting the members sorts their texts. -/
theorem canonicalMembers_insertionSort (members : List (String × JsonValue)) :
    canonicalMembers (members.insertionSort memberOrder) =
      (canonicalMembers members).insertionSort (keyOrder · ·) := by
  rw [canonicalMembers_eq, canonicalMembers_eq]
  refine List.map_insertionSort memberOrder (fun left right => keyOrder left right = true) _ _ ?_
  intro left _ right _
  exact (decide_eq_true_iff (p := left.1 ≤ right.1)).symm

mutual

/-- **The order of the keys leaves no trace in the canonical text.** -/
theorem canonicalValue_sorted : ∀ value : JsonValue, canonicalValue value.sorted = canonicalValue value
  | .null => rfl
  | .bool _ => rfl
  | .int _ => rfl
  | .float _ => rfl
  | .str _ => rfl
  | .arr items => by
      rw [sorted, canonicalValue, canonicalValue, canonicalItems_sortedItems items]
  | .obj members => by
      have once : ((canonicalMembers members).insertionSort (keyOrder · ·)).Pairwise
          fun left right => keyOrder left right = true :=
        List.pairwise_insertionSort _ _
      rw [sorted, canonicalValue, canonicalValue, canonicalMembers_insertionSort,
        canonicalMembers_sortedMembers members, List.Pairwise.insertionSort_eq once]

theorem canonicalItems_sortedItems :
    ∀ items : List JsonValue, canonicalItems (sortedItems items) = canonicalItems items
  | [] => rfl
  | item :: rest => by
      rw [sortedItems, canonicalItems, canonicalItems, canonicalValue_sorted item,
        canonicalItems_sortedItems rest]

theorem canonicalMembers_sortedMembers :
    ∀ members : List (String × JsonValue),
      canonicalMembers (sortedMembers members) = canonicalMembers members
  | [] => rfl
  | (key, value) :: rest => by
      rw [sortedMembers, canonicalMembers, canonicalMembers, canonicalValue_sorted value,
        canonicalMembers_sortedMembers rest]

end

/-! ## Well-formed values -/

theorem canonicalMembers_iff {members : List (String × JsonValue)} :
    CanonicalMembers members ↔ ∀ member ∈ members, Canonical member.2 := by
  induction members with
  | nil => exact ⟨fun _ _ none => absurd none List.not_mem_nil, fun _ => trivial⟩
  | cons member rest ih =>
      obtain ⟨key, value⟩ := member
      rw [CanonicalMembers, ih, List.forall_mem_cons]

/-- Different keys in order are in ascending order. -/
theorem ascending_insertionSort {members : List (String × JsonValue)}
    (different : (members.map Prod.fst).Nodup) :
    ((members.insertionSort memberOrder).map Prod.fst).Pairwise (· < ·) := by
  have unequal : ((members.insertionSort memberOrder).map Prod.fst).Nodup :=
    ((List.perm_insertionSort memberOrder members).map Prod.fst).nodup_iff.mpr different
  have ordered : ((members.insertionSort memberOrder).map Prod.fst).Pairwise (· ≤ ·) :=
    List.pairwise_map.mpr (List.pairwise_insertionSort memberOrder members)
  exact (ordered.and unequal).imp fun both => Std.lt_of_le_of_ne both.1 both.2

mutual

/-- **Sorting makes a well-formed value canonical.** -/
theorem canonical_sorted : ∀ value : JsonValue, WellFormed value → Canonical value.sorted
  | .null, _ => trivial
  | .bool _, _ => trivial
  | .int _, _ => trivial
  | .float _, wellFormed => wellFormed.elim
  | .str _, _ => trivial
  | .arr items, wellFormed => canonicalItems_sorted items wellFormed
  | .obj members, wellFormed => by
      have each := canonicalMembers_iff.mp (canonicalMembers_sorted members wellFormed.2)
      rw [sorted]
      refine ⟨ascending_insertionSort ((keys_sortedMembers members).symm ▸ wellFormed.1), ?_⟩
      refine canonicalMembers_iff.mpr fun member present => each member ?_
      exact (List.mem_insertionSort memberOrder).mp present

theorem canonicalItems_sorted :
    ∀ items : List JsonValue, WellFormedItems items → CanonicalItems (sortedItems items)
  | [], _ => trivial
  | item :: rest, wellFormed =>
      ⟨canonical_sorted item wellFormed.1, canonicalItems_sorted rest wellFormed.2⟩

theorem canonicalMembers_sorted :
    ∀ members : List (String × JsonValue), WellFormedMembers members →
      CanonicalMembers (sortedMembers members)
  | [], _ => trivial
  | (_, value) :: rest, wellFormed =>
      ⟨canonical_sorted value wellFormed.1, canonicalMembers_sorted rest wellFormed.2⟩

end

/-- **The canonical text of a well-formed value is read back as the value in order.** -/
theorem loads_canonical {value : JsonValue} (wellFormed : WellFormed value) :
    loads (canonicalValue value).toList = some value.sorted := by
  rw [← canonicalValue_sorted]
  exact loads_canonicalValue (canonical_sorted value wellFormed)

/-- **Well-formed values with one canonical text agree up to the order of keys.** -/
theorem canonicalValue_eq_iff {left right : JsonValue} (left_formed : WellFormed left)
    (right_formed : WellFormed right) :
    canonicalValue left = canonicalValue right ↔ left.sorted = right.sorted := by
  constructor
  · intro same
    have reads := loads_canonical left_formed
    rw [same, loads_canonical right_formed] at reads
    exact (Option.some.inj reads).symm
  · intro same
    rw [← canonicalValue_sorted left, same, canonicalValue_sorted right]

/-! ## What is read is well formed -/

theorem object_wellFormed {read : List (String × JsonValue) × List Char} {value : JsonValue}
    {rest : List Char} (members : WellFormedMembers read.1) (made : object read = some (value, rest)) :
    WellFormed value := by
  rw [object] at made
  split at made
  next different =>
    cases made
    exact ⟨different, members⟩
  next => cases made

theorem readKeyword_wellFormed {word : String} {value read : JsonValue} {chars rest : List Char}
    (wellFormed : WellFormed value) (made : readKeyword word value chars = some (read, rest)) :
    WellFormed read := by
  rw [readKeyword] at made
  split at made
  · cases made
    exact wellFormed
  · cases made

/-- By induction on the fuel, for values, items and members at once. -/
theorem reads_wellFormed (fuel : Nat) :
    (∀ chars value rest, readValue fuel chars = some (value, rest) → WellFormed value) ∧
      (∀ chars items rest, readItems fuel chars = some (items, rest) → WellFormedItems items) ∧
      ∀ chars members rest, readMembers fuel chars = some (members, rest) →
        WellFormedMembers members := by
  induction fuel with
  | zero =>
      refine ⟨?_, ?_, ?_⟩
      · intro chars value rest read
        cases read
      · intro chars items rest read
        cases read
      · intro chars members rest read
        cases read
  | succ fuel ih =>
      obtain ⟨values, lists, objects⟩ := ih
      refine ⟨?_, ?_, ?_⟩
      · intro chars value rest read
        cases chars with
        | nil => cases read
        | cons c more =>
            rw [readValue] at read
            split at read
            · obtain ⟨text, _, made⟩ := Option.map_eq_some_iff.mp read
              cases made
              trivial
            split at read
            · split at read
              · cases read
              · split at read
                · cases read
                  trivial
                · obtain ⟨items, found, made⟩ := Option.map_eq_some_iff.mp read
                  cases made
                  exact lists _ _ _ found
            split at read
            · split at read
              · cases read
              · split at read
                · cases read
                  exact ⟨List.nodup_nil, trivial⟩
                · obtain ⟨members, found, made⟩ := Option.bind_eq_some_iff.mp read
                  exact object_wellFormed (objects _ _ _ found) made
            split at read
            · exact readKeyword_wellFormed (show WellFormed .null from trivial) read
            split at read
            · exact readKeyword_wellFormed (show WellFormed (.bool true) from trivial) read
            split at read
            · exact readKeyword_wellFormed (show WellFormed (.bool false) from trivial) read
            · obtain ⟨number, _, made⟩ := Option.map_eq_some_iff.mp read
              cases made
              trivial
      · intro chars items rest read
        rw [readItems] at read
        split at read
        · cases read
        next item _ found =>
          have first := values _ _ _ found
          split at read
          · cases read
          split at read
          · cases read
            exact ⟨first, trivial⟩
          split at read
          · obtain ⟨others, found, made⟩ := Option.map_eq_some_iff.mp read
            cases made
            exact ⟨first, lists _ _ _ found⟩
          · cases read
      · intro chars members rest read
        cases chars with
        | nil => cases read
        | cons c more =>
            rw [readMembers] at read
            split at read
            · cases read
            split at read
            · cases read
            split at read
            · cases read
            split at read
            · cases read
            split at read
            · cases read
            next value _ found =>
              have first := values _ _ _ found
              split at read
              · cases read
              split at read
              · cases read
                exact ⟨first, trivial⟩
              split at read
              · obtain ⟨others, found, made⟩ := Option.map_eq_some_iff.mp read
                cases made
                exact ⟨first, objects _ _ _ found⟩
              · cases read

theorem loads_wellFormed {chars : List Char} {value : JsonValue} (read : loads chars = some value) :
    WellFormed value := by
  rw [loads] at read
  split at read
  · cases read
  next found =>
    split at read
    · cases read
      exact (reads_wellFormed _).1 _ _ _ found
    · cases read

/-- **A text that is its own canonical form is the text of a value in order.** -/
theorem sorted_of_loads {chars : List Char} {value : JsonValue} (read : loads chars = some value)
    (canonical : (canonicalValue value).toList = chars) : value.sorted = value := by
  have again := loads_canonical (loads_wellFormed read)
  rw [canonical, read] at again
  exact (Option.some.inj again).symm

end WolandGuard.JsonValue
