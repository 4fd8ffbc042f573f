import WolandGuard.Data.JsonCompact

/-!
# Canonical texts are read back

Reading the canonical text of a value without floats, whose objects have their keys
in ascending order, gives the value (`loads_canonicalValue`): the compact text of
such a value is the canonical one (`compactValue_of_canonical`).
-/

set_option autoImplicit false

namespace WolandGuard.JsonValue

open Foundations

/-! ## Values that are written as they are read -/

mutual

/-- No floats, and the keys of every object in ascending order. -/
def Canonical : JsonValue → Prop
  | .null => True
  | .bool _ => True
  | .int _ => True
  | .float _ => False
  | .str _ => True
  | .arr items => CanonicalItems items
  | .obj members => (members.map Prod.fst).Pairwise (· < ·) ∧ CanonicalMembers members

def CanonicalItems : List JsonValue → Prop
  | [] => True
  | item :: rest => item.Canonical ∧ CanonicalItems rest

def CanonicalMembers : List (String × JsonValue) → Prop
  | [] => True
  | (_, value) :: rest => value.Canonical ∧ CanonicalMembers rest

end

/-! ## Canonical texts -/

/-- The text between the brackets of a list. -/
def itemsText (items : List JsonValue) : List Char := (",".intercalate (canonicalItems items)).toList

/-- The text between the braces of an object that is in order. -/
def membersText (members : List (String × JsonValue)) : List Char :=
  (",".intercalate ((canonicalMembers members).map fun entry =>
    quote entry.1 ++ ":" ++ entry.2)).toList

theorem canonicalValue_arr (items : List JsonValue) :
    (canonicalValue (.arr items)).toList = '[' :: (itemsText items ++ [']']) := by
  rw [canonicalValue, String.toList_append, String.toList_append]
  rfl

theorem itemsText_cons_cons (item next : JsonValue) (rest : List JsonValue) :
    itemsText (item :: next :: rest) =
      (canonicalValue item).toList ++ ',' :: itemsText (next :: rest) := by
  rw [itemsText, canonicalItems, canonicalItems, String.intercalate_cons_cons,
    String.toList_append, String.toList_append, List.append_assoc]
  rfl

theorem itemsText_singleton (item : JsonValue) : itemsText [item] = (canonicalValue item).toList := by
  rw [itemsText, canonicalItems, canonicalItems, String.intercalate_singleton]

theorem keys_canonicalMembers (members : List (String × JsonValue)) :
    (canonicalMembers members).map Prod.fst = members.map Prod.fst := by
  induction members with
  | nil => rfl
  | cons member rest ih =>
      obtain ⟨key, value⟩ := member
      rw [canonicalMembers, List.map_cons, List.map_cons, ih]

theorem sorted_canonicalMembers {members : List (String × JsonValue)}
    (ascending : (members.map Prod.fst).Pairwise (· < ·)) :
    (canonicalMembers members).Pairwise fun left right => keyOrder left right = true := by
  rw [← keys_canonicalMembers, List.pairwise_map] at ascending
  exact ascending.imp fun less => decide_eq_true (Std.le_of_lt less)

theorem canonicalValue_obj_toList {members : List (String × JsonValue)}
    (ascending : (members.map Prod.fst).Pairwise (· < ·)) :
    (canonicalValue (.obj members)).toList = '{' :: (membersText members ++ ['}']) := by
  rw [canonicalValue_obj (sorted_canonicalMembers ascending), String.toList_append, String.toList_append]
  rfl

theorem membersText_cons_cons (key : String) (value : JsonValue) (next : String × JsonValue)
    (rest : List (String × JsonValue)) :
    membersText ((key, value) :: next :: rest) =
      '"' :: (key.toList.flatMap escapeChar ++ '"' :: ':' :: ((canonicalValue value).toList ++
        ',' :: membersText (next :: rest))) := by
  obtain ⟨next_key, next_value⟩ := next
  rw [membersText, canonicalMembers, canonicalMembers, List.map_cons, List.map_cons,
    String.intercalate_cons_cons, String.toList_append, String.toList_append, String.toList_append,
    String.toList_append, quote_toList]
  simp [membersText, canonicalMembers]

theorem membersText_singleton (key : String) (value : JsonValue) :
    membersText [(key, value)] =
      '"' :: (key.toList.flatMap escapeChar ++ '"' :: ':' :: (canonicalValue value).toList) := by
  rw [membersText, canonicalMembers, canonicalMembers, List.map_cons, List.map_nil,
    String.intercalate_singleton, String.toList_append, String.toList_append, quote_toList]
  simp

/-- The keys of an object in ascending order are different. -/
theorem nodup_of_ascending {members : List (String × JsonValue)}
    (ascending : (members.map Prod.fst).Pairwise (· < ·)) : (members.map Prod.fst).Nodup :=
  ascending.imp fun less => String.ne_of_lt less

mutual

theorem wellFormed_of_canonical : ∀ value : JsonValue, Canonical value → WellFormed value
  | .null, _ => trivial
  | .bool _, _ => trivial
  | .int _, _ => trivial
  | .float _, canonical => canonical.elim
  | .str _, _ => trivial
  | .arr items, canonical => wellFormedItems_of_canonical items canonical
  | .obj members, canonical =>
      ⟨nodup_of_ascending canonical.1, wellFormedMembers_of_canonical members canonical.2⟩

theorem wellFormedItems_of_canonical :
    ∀ items : List JsonValue, CanonicalItems items → WellFormedItems items
  | [], _ => trivial
  | item :: rest, canonical =>
      ⟨wellFormed_of_canonical item canonical.1, wellFormedItems_of_canonical rest canonical.2⟩

theorem wellFormedMembers_of_canonical :
    ∀ members : List (String × JsonValue), CanonicalMembers members → WellFormedMembers members
  | [], _ => trivial
  | (_, value) :: rest, canonical =>
      ⟨wellFormed_of_canonical value canonical.1, wellFormedMembers_of_canonical rest canonical.2⟩

end

mutual

/-- **Where the keys are in order, the compact text is the canonical one.** -/
theorem compactValue_of_canonical :
    ∀ value : JsonValue, Canonical value → compactValue value = canonicalValue value
  | .null, _ => rfl
  | .bool _, _ => rfl
  | .int _, _ => rfl
  | .float _, canonical => canonical.elim
  | .str _, _ => rfl
  | .arr items, canonical => by
      rw [compactValue, canonicalValue, compactItems_of_canonical items canonical]
  | .obj members, canonical => by
      rw [compactValue, compactMembers_of_canonical members canonical.2,
        canonicalValue_obj (sorted_canonicalMembers canonical.1)]

theorem compactItems_of_canonical :
    ∀ items : List JsonValue, CanonicalItems items → compactItems items = canonicalItems items
  | [], _ => rfl
  | item :: rest, canonical => by
      rw [compactItems, canonicalItems, compactValue_of_canonical item canonical.1,
        compactItems_of_canonical rest canonical.2]

theorem compactMembers_of_canonical :
    ∀ members : List (String × JsonValue), CanonicalMembers members →
      compactMembers members = canonicalMembers members
  | [], _ => rfl
  | (key, value) :: rest, canonical => by
      rw [compactMembers, canonicalMembers, compactValue_of_canonical value canonical.1,
        compactMembers_of_canonical rest canonical.2]

end

/-- **`json.loads` inverts the canonical text.** -/
theorem loads_canonicalValue {value : JsonValue} (canonical : Canonical value) :
    loads (canonicalValue value).toList = some value := by
  rw [← compactValue_of_canonical value canonical]
  exact loads_compactValue (wellFormed_of_canonical value canonical)

end WolandGuard.JsonValue
