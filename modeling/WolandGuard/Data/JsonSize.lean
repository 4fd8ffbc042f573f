import WolandGuard.Data.JsonCanonical
import WolandGuard.Data.Utf8

/-!
# The size of a JSON text

How many bytes the canonical text of a value takes in UTF-8, counted on the value:
two marks around each text, the escapes of its characters, and the separators
between items and members.
-/

set_option autoImplicit false

namespace WolandGuard.JsonValue

/-! ## Sizes -/

/-- The bytes of a character inside a literal. -/
def charSize (c : Char) : Nat :=
  if c = '"' || c = '\\' || c = '\n' || c = '\r' || c = '\t' || c.toNat = 8 || c.toNat = 12 then 2
  else if c.toNat < 32 then 6
  else (utf8Char c).length

/-- The bytes of a literal. -/
def literalSize (text : String) : Nat := 2 + (text.toList.map charSize).sum

mutual

/-- The bytes of a value without floats. -/
def jsonSize : JsonValue → Nat
  | .null => 4
  | .bool value => if value then 4 else 5
  | .int value => (toString value).length
  | .float _ => 0
  | .str text => literalSize text
  | .arr items => 2 + itemsSize items + (items.length - 1)
  | .obj members => 2 + membersSize members + (members.length - 1)

def itemsSize : List JsonValue → Nat
  | [] => 0
  | item :: rest => item.jsonSize + itemsSize rest

def membersSize : List (String × JsonValue) → Nat
  | [] => 0
  | (key, value) :: rest => literalSize key + 1 + value.jsonSize + membersSize rest

end

/-! ## Counting bytes -/

/-- The bytes of a text in UTF-8. -/
def textSize (text : String) : Nat := (utf8 text).length

theorem textSize_append (left right : String) :
    textSize (left ++ right) = textSize left + textSize right := by
  rw [textSize, utf8_append, List.length_append, textSize, textSize]

theorem textSize_ofList (chars : List Char) :
    textSize (String.ofList chars) = (chars.map fun c => (utf8Char c).length).sum := by
  rw [textSize, utf8_eq, String.toList_ofList, List.length_flatMap]

/-- Texts with a separator of one byte between them. -/
theorem textSize_intercalate (texts : List String) :
    textSize (",".intercalate texts) = (texts.map textSize).sum + (texts.length - 1) := by
  induction texts with
  | nil => rfl
  | cons first rest ih =>
      cases rest with
      | nil => simp [String.intercalate_singleton]
      | cons second rest =>
          have comma : textSize "," = 1 := rfl
          rw [String.intercalate_cons_cons, textSize_append, textSize_append, ih, comma]
          simp only [List.map_cons, List.sum_cons, List.length_cons]
          omega

theorem utf8Char_ascii {c : Char} (ascii : c.toNat < 128) : (utf8Char c).length = 1 := by
  rw [utf8Char, if_pos ascii]
  rfl

theorem hexDigit_ascii (n : Nat) : (hexDigit n).toNat < 128 := by
  have every : ∀ d < 16, (hexDigit d).toNat < 128 := by decide
  have digit := every (n % 16) (Nat.mod_lt n (by decide))
  rwa [hexDigit, Nat.mod_mod] at digit

theorem size_escapeChar (c : Char) :
    ((escapeChar c).map fun c => (utf8Char c).length).sum = charSize c := by
  unfold escapeChar charSize
  split
  next quotation => simp [quotation, utf8Char]
  split
  next backslash => simp [backslash, utf8Char]
  split
  next newline => simp [newline, utf8Char]
  split
  next ret => simp [ret, utf8Char]
  split
  next tab => simp [tab, utf8Char]
  split
  next backspace => simp [backspace, utf8Char]
  split
  next feed => simp [feed, utf8Char]
  next quotation backslash newline ret tab backspace feed =>
    have plain : (c = '"' || c = '\\' || c = '\n' || c = '\r' || c = '\t' || c.toNat = 8 ||
        c.toNat = 12) = false := by
      simp only [quotation, backslash, newline, ret, tab, backspace, feed, decide_false,
        Bool.or_false]
    rw [plain, if_neg Bool.false_ne_true]
    split
    · simp only [List.map_cons, List.map_nil, List.sum_cons, List.sum_nil,
        utf8Char_ascii (hexDigit_ascii _)]
      rfl
    · exact Nat.add_zero _

theorem textSize_quote (text : String) : textSize (quote text) = literalSize text := by
  have marks : textSize "\"" = 1 := rfl
  rw [quote, textSize_append, textSize_append, marks, textSize_ofList, literalSize]
  have chars : ((text.toList.flatMap escapeChar).map fun c => (utf8Char c).length).sum =
      (text.toList.map charSize).sum := by
    induction text.toList with
    | nil => rfl
    | cons c rest ih =>
        rw [List.flatMap_cons, List.map_append, List.sum_append, size_escapeChar, ih,
          List.map_cons, List.sum_cons]
  rw [chars]
  omega

theorem length_canonicalItems (items : List JsonValue) :
    (canonicalItems items).length = items.length := by
  induction items with
  | nil => rfl
  | cons item rest ih => rw [canonicalItems, List.length_cons, List.length_cons, ih]

/-- An ASCII text takes a byte for each character. -/
theorem textSize_int (i : Int) : textSize (toString i) = (toString i).length := by
  have ascii : ∀ c ∈ (toString i).toList, (utf8Char c).length = 1 := by
    intro c member
    refine utf8Char_ascii ?_
    have digit : ∀ n, c ∈ Nat.toDigits 10 n → c.toNat < 128 := by
      intro n here
      have found := Nat.isDigit_of_mem_toDigits (by decide) (by decide) here
      have upper : c.toNat ≤ 57 := (Char.isDigit_iff_toNat.mp found).2
      omega
    rw [toList_toString_int] at member
    split at member
    · exact digit _ member
    · rcases List.mem_cons.mp member with rfl | here
      · decide
      · exact digit _ here
  rw [textSize, utf8_eq, List.length_flatMap, ← String.length_toList,
    List.map_congr_left ascii]
  simp

/-! ## The size of the canonical text -/

/-- An object of members that are already written. -/
theorem textSize_entries (entries : List (String × String)) :
    textSize ("\x7b" ++ ",".intercalate (entries.map fun entry => quote entry.1 ++ ":" ++ entry.2) ++
      "\x7d") =
      2 + ((entries.map fun entry => textSize (quote entry.1 ++ ":" ++ entry.2)).sum +
        (entries.length - 1)) := by
  have opening : textSize "\x7b" = 1 := rfl
  have closing : textSize "\x7d" = 1 := rfl
  rw [textSize_append, textSize_append, textSize_intercalate, List.map_map, List.length_map,
    opening, closing, Function.comp_def]
  omega

mutual

/-- **The canonical text takes as many bytes as the value counts.** -/
theorem textSize_canonicalValue : ∀ value : JsonValue, WellFormed value →
    textSize (canonicalValue value) = jsonSize value
  | .null, _ => rfl
  | .bool true, _ => rfl
  | .bool false, _ => rfl
  | .int i, _ => textSize_int i
  | .float _, wellFormed => wellFormed.elim
  | .str text, _ => textSize_quote text
  | .arr items, wellFormed => by
      have opening : textSize "[" = 1 := rfl
      have closing : textSize "]" = 1 := rfl
      rw [canonicalValue, textSize_append, textSize_append, textSize_intercalate,
        textSize_canonicalItems items wellFormed, length_canonicalItems, jsonSize, opening, closing]
      omega
  | .obj members, wellFormed => by
      have total := textSize_canonicalMembers members wellFormed.2
      have count : (canonicalMembers members).length = members.length := by
        rw [canonicalMembers_eq, List.length_map]
      have reorder := List.perm_insertionSort (keyOrder · ·) (canonicalMembers members)
      rw [canonicalValue, textSize_entries, reorder.length_eq, count, (reorder.map _).sum_eq, total,
        jsonSize, Nat.add_assoc]

theorem textSize_canonicalItems : ∀ items : List JsonValue, WellFormedItems items →
    ((canonicalItems items).map textSize).sum = itemsSize items
  | [], _ => rfl
  | item :: rest, wellFormed => by
      rw [canonicalItems, List.map_cons, List.sum_cons, textSize_canonicalValue item wellFormed.1,
        textSize_canonicalItems rest wellFormed.2, itemsSize]

theorem textSize_canonicalMembers : ∀ members : List (String × JsonValue),
    WellFormedMembers members →
    ((canonicalMembers members).map fun entry => textSize (quote entry.1 ++ ":" ++ entry.2)).sum =
      membersSize members
  | [], _ => rfl
  | (key, value) :: rest, wellFormed => by
      have colon : textSize ":" = 1 := rfl
      rw [canonicalMembers, List.map_cons, List.sum_cons, textSize_append, textSize_append,
        textSize_quote, colon, textSize_canonicalValue value wellFormed.1,
        textSize_canonicalMembers rest wellFormed.2, membersSize]

end

end WolandGuard.JsonValue
