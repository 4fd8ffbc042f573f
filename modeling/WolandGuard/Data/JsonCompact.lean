import WolandGuard.Data.JsonText

/-!
# Compact texts are read back

Reading the compact text of a value without floats, whose objects have no key twice,
gives the value (`loads_compactValue`). By recursion on the value: a text that ends
where its value ends is followed by a separator or a closing bracket, or by nothing.
-/

set_option autoImplicit false

namespace WolandGuard.JsonValue

open Foundations

/-! ## Well-formed values -/

mutual

/-- No floats, and no key twice in an object. -/
def WellFormed : JsonValue → Prop
  | .null => True
  | .bool _ => True
  | .int _ => True
  | .float _ => False
  | .str _ => True
  | .arr items => WellFormedItems items
  | .obj members => (members.map Prod.fst).Nodup ∧ WellFormedMembers members

def WellFormedItems : List JsonValue → Prop
  | [] => True
  | item :: rest => item.WellFormed ∧ WellFormedItems rest

def WellFormedMembers : List (String × JsonValue) → Prop
  | [] => True
  | (_, value) :: rest => value.WellFormed ∧ WellFormedMembers rest

end

/-! ## Literals -/

theorem hexValue?_hexDigit (n : Nat) : hexValue? (hexDigit n) = some (n % 16) := by
  have every : ∀ d < 16, hexValue? (hexDigit d) = some d := by decide
  have digit := every (n % 16) (Nat.mod_lt n (by decide))
  rwa [hexDigit, Nat.mod_mod] at digit

theorem readChar_escape (c first : Char) (not_unicode : first ≠ 'u')
    (escapes : simpleEscape first = some c) (rest : List Char) :
    readChar ('\\' :: first :: rest) = some (c, rest) := by
  rw [readChar, if_pos rfl, readEscape, if_neg not_unicode, escapes]
  rfl

/-- **Each escaped character is read back**, in front of any text. -/
theorem readChar_escapeChar (c : Char) (rest : List Char) :
    readChar (escapeChar c ++ rest) = some (c, rest) := by
  unfold escapeChar
  split
  next quotation =>
    subst quotation
    exact readChar_escape _ _ (by decide) rfl rest
  split
  next backslash =>
    subst backslash
    exact readChar_escape _ _ (by decide) rfl rest
  split
  next newline =>
    subst newline
    exact readChar_escape _ _ (by decide) rfl rest
  split
  next ret =>
    subst ret
    exact readChar_escape _ _ (by decide) rfl rest
  split
  next tab =>
    subst tab
    exact readChar_escape _ _ (by decide) rfl rest
  split
  next backspace =>
    rw [← Char.ofNat_toNat c, backspace]
    exact readChar_escape _ _ (by decide) rfl rest
  split
  next feed =>
    rw [← Char.ofNat_toNat c, feed]
    exact readChar_escape _ _ (by decide) rfl rest
  split
  next control =>
    have value : 0 * 4096 + 0 * 256 + c.toNat / 16 % 16 * 16 + c.toNat % 16 = c.toNat := by omega
    have zero : hexValue? '0' = some 0 := by decide
    have digits : hexFour ('0' :: '0' :: hexDigit (c.toNat / 16) :: hexDigit c.toNat :: rest) =
        some (c.toNat, rest) := by
      rw [hexFour, zero, hexValue?_hexDigit, hexValue?_hexDigit]
      exact congrArg (fun n => some (n, rest)) value
    change readChar ('\\' :: 'u' :: '0' :: '0' :: hexDigit (c.toNat / 16) :: hexDigit c.toNat ::
      rest) = _
    have not_high : ¬ (decide (0xD800 ≤ c.toNat) && decide (c.toNat < 0xDC00)) = true := by
      simp only [Bool.and_eq_true, decide_eq_true_eq]
      omega
    have not_low : ¬ (decide (0xDC00 ≤ c.toNat) && decide (c.toNat < 0xE000)) = true := by
      simp only [Bool.and_eq_true, decide_eq_true_eq]
      omega
    rw [readChar, if_pos rfl, readEscape, if_pos rfl, readUnicode, digits]
    dsimp only
    rw [if_neg not_high, if_neg not_low, Char.ofNat_toNat]
  next backslash _ _ _ _ _ printable =>
    rw [List.singleton_append, readChar, if_neg backslash, if_neg printable]

/-- An escaped character does not begin with the mark of the end. -/
theorem escapeChar_starts (c : Char) :
    ∃ first others, escapeChar c = first :: others ∧ first ≠ '"' := by
  unfold escapeChar
  split
  · exact ⟨_, _, rfl, by decide⟩
  split
  · exact ⟨_, _, rfl, by decide⟩
  split
  · exact ⟨_, _, rfl, by decide⟩
  split
  · exact ⟨_, _, rfl, by decide⟩
  split
  · exact ⟨_, _, rfl, by decide⟩
  split
  · exact ⟨_, _, rfl, by decide⟩
  split
  · exact ⟨_, _, rfl, by decide⟩
  split
  · exact ⟨_, _, rfl, by decide⟩
  next quotation _ _ _ _ _ _ _ => exact ⟨c, [], rfl, quotation⟩

/-- **A literal is read back**, in front of any text. -/
theorem readLiteral_quote (text : String) (rest : List Char) :
    readLiteral (text.toList.flatMap escapeChar ++ '"' :: rest) = some (text, rest) := by
  rw [readLiteral, readUntil_flatMap escapeChar_starts readChar_escapeChar text.toList rest]
  · rw [Option.map_some, String.ofList_toList]
  · rw [List.length_append]
    exact Nat.le_add_right _ _

/-! ## Integers -/

/-- What may follow a value. -/
def Terminated (rest : List Char) : Prop :=
  rest = [] ∨ ∃ c others, rest = c :: others ∧ (c = ',' ∨ c = ']' ∨ c = '\x7d')

/-- A number does not begin with a zero, other than zero itself. -/
theorem head_toDigits {n : Nat} (positive : 0 < n) : (Nat.toDigits 10 n).head? ≠ some '0' := by
  induction n using Nat.strong_induction_on with
  | _ n ih =>
      by_cases small : n < 10
      · rw [Nat.toDigits_of_lt_base small, List.head?_cons]
        intro same
        exact Nat.ne_of_gt positive (Nat.digitChar_eq_zero.mp (Option.some.inj same))
      · rw [Nat.toDigits_of_base_le (by decide) (Nat.le_of_not_lt small)]
        have shorter := ih (n / 10) (by omega) (by omega)
        cases digits : Nat.toDigits 10 (n / 10) with
        | nil => exact absurd digits Nat.toDigits_ne_nil
        | cons first others =>
            rw [digits] at shorter
            exact shorter

theorem isDigit_head {rest : List Char} (terminated : Terminated rest) :
    rest.takeWhile Char.isDigit = [] := by
  rcases terminated with rfl | ⟨c, others, rfl, rfl | rfl | rfl⟩
  · rfl
  · rfl
  · rfl
  · rfl

theorem integerDigits_toDigits (n : Nat) {rest : List Char} (terminated : Terminated rest) :
    integerDigits (Nat.toDigits 10 n ++ rest) = Nat.toDigits 10 n := by
  rcases Nat.eq_zero_or_pos n with rfl | positive
  · rw [Nat.toDigits_zero]
    rfl
  · have digits : ∀ c ∈ Nat.toDigits 10 n, c.isDigit = true := by
      intro c member
      exact Nat.isDigit_of_mem_toDigits (by decide) (by decide) member
    rw [integerDigits, if_neg, List.takeWhile_append_of_pos digits, isDigit_head terminated,
      List.append_nil]
    intro zero
    refine head_toDigits positive ?_
    cases shape : Nat.toDigits 10 n with
    | nil => exact absurd shape Nat.toDigits_ne_nil
    | cons first others =>
        rw [shape] at zero
        exact zero

theorem readNatural_toDigits (n : Nat) {rest : List Char} (terminated : Terminated rest) :
    readNatural (Nat.toDigits 10 n ++ rest) = some (n, rest) := by
  have no_fraction : rest.head?.any ['.', 'e', 'E'].contains = false := by
    rcases terminated with rfl | ⟨c, others, rfl, rfl | rfl | rfl⟩
    · rfl
    · rfl
    · rfl
    · rfl
  have some_digit : (Nat.toDigits 10 n).isEmpty = false := by
    rw [List.isEmpty_eq_false_iff]
    exact Nat.toDigits_ne_nil
  rw [readNatural, integerDigits_toDigits n terminated, List.drop_left, no_fraction, some_digit]
  rw [if_neg (by simp), Nat.ofDigitChars_ten_toDigits]

theorem toList_toString_int (i : Int) :
    (toString i).toList =
      if 0 ≤ i then Nat.toDigits 10 i.toNat else '-' :: Nat.toDigits 10 (-i).toNat := by
  rw [Int.toString_eq_repr, Int.repr_eq_if]
  split
  · exact Nat.toList_repr
  · rw [String.toList_append, Nat.toList_repr]
    rfl

/-- **An integer is read back** where no digit follows it. -/
theorem readInteger_toString (i : Int) {rest : List Char} (terminated : Terminated rest) :
    readInteger ((toString i).toList ++ rest) = some (i, rest) := by
  rw [toList_toString_int]
  split
  next nonneg =>
    have no_sign : (Nat.toDigits 10 i.toNat ++ rest).head? ≠ some '-' := by
      cases shape : Nat.toDigits 10 i.toNat with
      | nil => exact absurd shape Nat.toDigits_ne_nil
      | cons first others =>
          have digit : first.isDigit = true :=
            Nat.isDigit_of_mem_toDigits (by decide) (by decide) (shape ▸ List.mem_cons_self)
          intro same
          rw [Option.some.inj same] at digit
          exact absurd digit (by decide)
    rw [readInteger, if_neg no_sign, readNatural_toDigits _ terminated, Option.map_some,
      Int.toNat_of_nonneg nonneg]
  next negative =>
    rw [List.cons_append, readInteger, if_pos List.head?_cons, List.tail_cons,
      readNatural_toDigits _ terminated, Option.map_some, Int.toNat_of_nonneg (by omega), Int.neg_neg]

/-! ## Compact texts -/

mutual

/-- `json.dumps` without spaces, with the keys in their order. -/
def compactValue : JsonValue → String
  | .null => "null"
  | .bool value => if value then "true" else "false"
  | .int value => toString value
  | .float value => value.repr
  | .str text => quote text
  | .arr items => "[" ++ ",".intercalate (compactItems items) ++ "]"
  | .obj members =>
      "\x7b" ++ ",".intercalate
        ((compactMembers members).map fun entry => quote entry.1 ++ ":" ++ entry.2) ++ "\x7d"

def compactItems : List JsonValue → List String
  | [] => []
  | item :: rest => item.compactValue :: compactItems rest

def compactMembers : List (String × JsonValue) → List (String × String)
  | [] => []
  | (key, value) :: rest => (key, value.compactValue) :: compactMembers rest

end

mutual

/-- The fuel that reading a value takes. -/
def weight : JsonValue → Nat
  | .arr items => weightItems items + 1
  | .obj members => weightMembers members + 1
  | _ => 1

def weightItems : List JsonValue → Nat
  | [] => 0
  | item :: rest => weight item + weightItems rest + 1

def weightMembers : List (String × JsonValue) → Nat
  | [] => 0
  | (_, value) :: rest => weight value + weightMembers rest + 1

end

/-- The text between the brackets of a list. -/
def compactItemsText (items : List JsonValue) : List Char :=
  (",".intercalate (compactItems items)).toList

/-- The text between the braces of an object. -/
def compactMembersText (members : List (String × JsonValue)) : List Char :=
  (",".intercalate ((compactMembers members).map fun entry =>
    quote entry.1 ++ ":" ++ entry.2)).toList

theorem compactValue_arr (items : List JsonValue) :
    (compactValue (.arr items)).toList = '[' :: (compactItemsText items ++ [']']) := by
  rw [compactValue, String.toList_append, String.toList_append]
  rfl

theorem compactValue_obj (members : List (String × JsonValue)) :
    (compactValue (.obj members)).toList = '{' :: (compactMembersText members ++ ['}']) := by
  rw [compactValue, String.toList_append, String.toList_append]
  rfl

theorem compactItemsText_cons_cons (item next : JsonValue) (rest : List JsonValue) :
    compactItemsText (item :: next :: rest) =
      (compactValue item).toList ++ ',' :: compactItemsText (next :: rest) := by
  rw [compactItemsText, compactItems, compactItems, String.intercalate_cons_cons,
    String.toList_append, String.toList_append, List.append_assoc]
  rfl

theorem compactItemsText_singleton (item : JsonValue) : compactItemsText [item] = (compactValue item).toList := by
  rw [compactItemsText, compactItems, compactItems, String.intercalate_singleton]

theorem compactMembersText_cons_cons (key : String) (value : JsonValue) (next : String × JsonValue)
    (rest : List (String × JsonValue)) :
    compactMembersText ((key, value) :: next :: rest) =
      '"' :: (key.toList.flatMap escapeChar ++ '"' :: ':' :: ((compactValue value).toList ++
        ',' :: compactMembersText (next :: rest))) := by
  obtain ⟨next_key, next_value⟩ := next
  rw [compactMembersText, compactMembers, compactMembers, List.map_cons, List.map_cons,
    String.intercalate_cons_cons, String.toList_append, String.toList_append, String.toList_append,
    String.toList_append, quote_toList]
  simp [compactMembersText, compactMembers]

theorem compactMembersText_singleton (key : String) (value : JsonValue) :
    compactMembersText [(key, value)] =
      '"' :: (key.toList.flatMap escapeChar ++ '"' :: ':' :: (compactValue value).toList) := by
  rw [compactMembersText, compactMembers, compactMembers, List.map_cons, List.map_nil,
    String.intercalate_singleton, String.toList_append, String.toList_append, quote_toList]
  simp

/-! ## Reading a compact text -/

theorem skipBlanks_cons {c : Char} (rest : List Char)
    (visible : (c = ' ' || c = '\t' || c = '\n' || c = '\r') = false) :
    skipBlanks (c :: rest) = c :: rest := by
  rw [skipBlanks, List.dropWhile_cons_of_neg]
  rw [visible]
  decide

/-- The first character of an integer: a digit or a sign. -/
theorem toString_int_starts (i : Int) :
    ∃ first others, (toString i).toList = first :: others ∧
      (first.isDigit = true ∨ first = '-') := by
  rw [toList_toString_int]
  split
  · cases shape : Nat.toDigits 10 i.toNat with
    | nil => exact absurd shape Nat.toDigits_ne_nil
    | cons first others =>
        refine ⟨first, others, rfl, .inl ?_⟩
        exact Nat.isDigit_of_mem_toDigits (by decide) (by decide) (shape ▸ List.mem_cons_self)
  · exact ⟨_, _, rfl, .inr rfl⟩

/-- A compact text begins with a character that is neither blank nor a bracket
that closes. -/
theorem compactValue_starts {value : JsonValue} (wellFormed : WellFormed value) :
    ∃ first others, (compactValue value).toList = first :: others ∧
      (first = ' ' || first = '\t' || first = '\n' || first = '\r') = false ∧ first ≠ ']' := by
  cases value with
  | null => exact ⟨_, _, rfl, by decide, by decide⟩
  | bool value =>
      cases value with
      | true => exact ⟨_, _, rfl, by decide, by decide⟩
      | false => exact ⟨_, _, rfl, by decide, by decide⟩
  | int i =>
      obtain ⟨first, others, shape, digit | sign⟩ := toString_int_starts i
      · refine ⟨first, others, shape, ?_, ?_⟩
        · simp only [Bool.or_eq_false_iff, decide_eq_false_iff_not]
          refine ⟨⟨⟨?_, ?_⟩, ?_⟩, ?_⟩
          all_goals
            intro same
            rw [same] at digit
            exact absurd digit (by decide)
        · intro same
          rw [same] at digit
          exact absurd digit (by decide)
      · subst sign
        exact ⟨_, _, shape, by decide, by decide⟩
  | float f => exact wellFormed.elim
  | str text => exact ⟨_, _, by rw [compactValue, quote_toList], by decide, by decide⟩
  | arr items => exact ⟨_, _, compactValue_arr items, by decide, by decide⟩
  | obj members => exact ⟨_, _, compactValue_obj members, by decide, by decide⟩

theorem skipBlanks_compactValue {value : JsonValue} (wellFormed : WellFormed value)
    (rest : List Char) :
    skipBlanks ((compactValue value).toList ++ rest) = (compactValue value).toList ++ rest := by
  obtain ⟨first, others, shape, visible, _⟩ := compactValue_starts wellFormed
  rw [shape]
  exact skipBlanks_cons _ visible

theorem terminated_comma (rest : List Char) : Terminated (',' :: rest) :=
  .inr ⟨_, _, rfl, .inl rfl⟩

theorem terminated_bracket (rest : List Char) : Terminated (']' :: rest) :=
  .inr ⟨_, _, rfl, .inr (.inl rfl)⟩

theorem terminated_brace (rest : List Char) : Terminated ('\x7d' :: rest) :=
  .inr ⟨_, _, rfl, .inr (.inr rfl)⟩

/-- A character that no keyword, literal or bracket begins with. -/
theorem readValue_integer {c : Char} (number : c.isDigit = true ∨ c = '-') (fuel : Nat)
    (rest : List Char) :
    readValue (fuel + 1) (c :: rest) =
      (readInteger (c :: rest)).map fun read => (.int read.1, read.2) := by
  have other : ∀ d : Char, d.isDigit = false → d ≠ '-' → c ≠ d := by
    rintro d no_digit no_sign rfl
    rcases number with digit | sign
    · rw [digit] at no_digit
      exact absurd no_digit (by decide)
    · exact no_sign sign
  rw [readValue, if_neg (other _ (by decide) (by decide)),
    if_neg (other _ (by decide) (by decide)), if_neg (other _ (by decide) (by decide)),
    if_neg (other _ (by decide) (by decide)), if_neg (other _ (by decide) (by decide)),
    if_neg (other _ (by decide) (by decide))]

theorem readKeyword_append (word : String) (value : JsonValue) (rest : List Char) :
    readKeyword word value (word.toList ++ rest) = some (value, rest) := by
  rw [readKeyword, if_pos (List.isPrefixOf_iff_prefix.mpr (List.prefix_append _ _))]
  rw [← String.length_toList, List.drop_left]

mutual

/-- **A compact text is read back**, in front of what may follow a value. -/
theorem readValue_compactValue : ∀ (value : JsonValue) (fuel : Nat) (rest : List Char),
    WellFormed value → weight value ≤ fuel → Terminated rest →
    readValue fuel ((compactValue value).toList ++ rest) = some (value, rest)
  | value, 0, _, _, enough, _ => by
      cases value with
      | arr items => exact absurd enough (by simp [weight])
      | obj members => exact absurd enough (by simp [weight])
      | _ => exact absurd enough (by simp [weight])
  | .null, _ + 1, rest, _, _, _ => readKeyword_append "null" .null rest
  | .bool true, _ + 1, rest, _, _, _ => readKeyword_append "true" (.bool true) rest
  | .bool false, _ + 1, rest, _, _, _ => readKeyword_append "false" (.bool false) rest
  | .int i, fuel + 1, rest, _, _, terminated => by
      have read := readInteger_toString i terminated
      obtain ⟨first, others, shape, number⟩ := toString_int_starts i
      rw [compactValue]
      rw [shape, List.cons_append] at read ⊢
      rw [readValue_integer number, read, Option.map_some]
  | .float _, _ + 1, _, wellFormed, _, _ => wellFormed.elim
  | .str text, fuel + 1, rest, _, _, _ => by
      rw [compactValue, quote_toList, List.cons_append, List.append_assoc, readValue,
        if_pos rfl, List.singleton_append, readLiteral_quote, Option.map_some]
  | .arr [], fuel + 1, rest, _, _, _ => rfl
  | .arr (item :: items), fuel + 1, rest, wellFormed, enough, _ => by
      rw [weight] at enough
      have read := readItems_compact item items fuel rest wellFormed (by omega)
      obtain ⟨first, others, shape, visible, opens⟩ := compactValue_starts wellFormed.1
      have text : ∃ more, compactItemsText (item :: items) ++ ']' :: rest = first :: more := by
        cases items with
        | nil => exact ⟨_, by rw [compactItemsText_singleton, shape, List.cons_append]⟩
        | cons next items => exact ⟨_, by
            rw [compactItemsText_cons_cons, shape, List.cons_append, List.cons_append]⟩
      obtain ⟨more, text⟩ := text
      rw [compactValue_arr, List.cons_append, List.append_assoc, List.singleton_append, text]
      rw [text] at read
      rw [readValue, if_neg (by decide), if_pos rfl, skipBlanks_cons _ visible]
      dsimp only
      rw [if_neg opens, read, Option.map_some]
  | .obj [], fuel + 1, rest, _, _, _ => rfl
  | .obj ((key, value) :: members), fuel + 1, rest, wellFormed, enough, _ => by
      rw [weight] at enough
      have read := readMembers_compact key value members fuel rest wellFormed.2 (by omega)
      have text : ∃ more, compactMembersText ((key, value) :: members) ++ '}' :: rest = '"' :: more := by
        cases members with
        | nil => exact ⟨_, by rw [compactMembersText_singleton, List.cons_append]⟩
        | cons next members => exact ⟨_, by rw [compactMembersText_cons_cons, List.cons_append]⟩
      obtain ⟨more, text⟩ := text
      rw [compactValue_obj, List.cons_append, List.append_assoc,
        List.singleton_append, text]
      rw [text] at read
      rw [readValue, if_neg (by decide), if_neg (by decide), if_pos rfl,
        skipBlanks_cons _ (by decide)]
      dsimp only
      rw [if_neg (by decide), read, Option.bind_some, object,
        if_pos (wellFormed.1)]

theorem readItems_compact : ∀ (item : JsonValue) (items : List JsonValue) (fuel : Nat)
    (rest : List Char), WellFormedItems (item :: items) → weightItems (item :: items) ≤ fuel →
    readItems fuel (compactItemsText (item :: items) ++ ']' :: rest) = some (item :: items, rest)
  | _, _, 0, _, _, enough => absurd enough (by simp [weightItems])
  | item, [], fuel + 1, rest, wellFormed, enough => by
      rw [weightItems] at enough
      rw [compactItemsText_singleton, readItems,
        readValue_compactValue item fuel (']' :: rest) wellFormed.1 (by omega)
          (terminated_bracket rest)]
      rfl
  | item, next :: items, fuel + 1, rest, wellFormed, enough => by
      rw [weightItems] at enough
      have read := readItems_compact next items fuel rest wellFormed.2 (by omega)
      have visible : skipBlanks (compactItemsText (next :: items) ++ ']' :: rest) =
          compactItemsText (next :: items) ++ ']' :: rest := by
        cases items with
        | nil =>
            rw [compactItemsText_singleton]
            exact skipBlanks_compactValue wellFormed.2.1 _
        | cons other items =>
            rw [compactItemsText_cons_cons, List.append_assoc]
            exact skipBlanks_compactValue wellFormed.2.1 _
      rw [compactItemsText_cons_cons, List.append_assoc, List.cons_append, readItems,
        readValue_compactValue item fuel _ wellFormed.1 (by omega) (terminated_comma _)]
      dsimp only
      rw [skipBlanks_cons _ (by decide)]
      dsimp only
      rw [if_neg (by decide), if_pos rfl, visible, read, Option.map_some]

theorem readMembers_compact : ∀ (key : String) (value : JsonValue)
    (members : List (String × JsonValue)) (fuel : Nat) (rest : List Char),
    WellFormedMembers ((key, value) :: members) → weightMembers ((key, value) :: members) ≤ fuel →
    readMembers fuel (compactMembersText ((key, value) :: members) ++ '}' :: rest) =
      some ((key, value) :: members, rest)
  | _, _, _, 0, _, _, enough => absurd enough (by simp [weightMembers])
  | key, value, [], fuel + 1, rest, wellFormed, enough => by
      rw [weightMembers] at enough
      rw [compactMembersText_singleton, List.cons_append, List.append_assoc, List.cons_append,
        List.cons_append, readMembers, if_neg (by decide), readLiteral_quote]
      dsimp only
      rw [skipBlanks_cons _ (by decide)]
      dsimp only
      rw [if_neg (by decide), skipBlanks_compactValue wellFormed.1,
        readValue_compactValue value fuel _ wellFormed.1 (by omega) (terminated_brace rest)]
      rfl
  | key, value, (next, other) :: members, fuel + 1, rest, wellFormed, enough => by
      rw [weightMembers] at enough
      have read := readMembers_compact next other members fuel rest wellFormed.2 (by omega)
      have visible : skipBlanks (compactMembersText ((next, other) :: members) ++ '}' :: rest) =
          compactMembersText ((next, other) :: members) ++ '}' :: rest := by
        cases members with
        | nil =>
            rw [compactMembersText_singleton]
            exact skipBlanks_cons _ (by decide)
        | cons last members =>
            rw [compactMembersText_cons_cons]
            exact skipBlanks_cons _ (by decide)
      rw [compactMembersText_cons_cons, List.cons_append, List.append_assoc, List.cons_append,
        List.cons_append, List.append_assoc, List.cons_append, readMembers, if_neg (by decide),
        readLiteral_quote]
      dsimp only
      rw [skipBlanks_cons _ (by decide)]
      dsimp only
      rw [if_neg (by decide), skipBlanks_compactValue wellFormed.1,
        readValue_compactValue value fuel _ wellFormed.1 (by omega) (terminated_comma _)]
      dsimp only
      rw [skipBlanks_cons _ (by decide)]
      dsimp only
      rw [if_neg (by decide), if_pos rfl, visible, read, Option.map_some]

end

/-! ## Enough fuel -/

mutual

theorem weight_le_length : ∀ (value : JsonValue), WellFormed value →
    weight value ≤ (compactValue value).toList.length
  | .null, _ => by simp [weight, compactValue]
  | .bool true, _ => by simp [weight, compactValue]
  | .bool false, _ => by simp [weight, compactValue]
  | .int i, _ => by
      obtain ⟨first, others, shape, _⟩ := toString_int_starts i
      simp only [compactValue, shape, weight, List.length_cons]
      omega
  | .float _, wellFormed => wellFormed.elim
  | .str text, _ => by
      simp only [compactValue, quote_toList, weight, List.length_cons]
      omega
  | .arr items, wellFormed => by
      have bound := weightItems_le_length items wellFormed
      rw [compactValue_arr, weight, List.length_cons, List.length_append, List.length_singleton]
      omega
  | .obj members, wellFormed => by
      have bound := weightMembers_le_length members wellFormed.2
      rw [compactValue_obj, weight, List.length_cons, List.length_append,
        List.length_singleton]
      omega

theorem weightItems_le_length : ∀ (items : List JsonValue), WellFormedItems items →
    weightItems items ≤ (compactItemsText items).length + 1
  | [], _ => Nat.zero_le _
  | [item], wellFormed => by
      have first := weight_le_length item wellFormed.1
      rw [compactItemsText_singleton, weightItems, weightItems]
      omega
  | item :: next :: items, wellFormed => by
      have first := weight_le_length item wellFormed.1
      have rest := weightItems_le_length (next :: items) wellFormed.2
      rw [compactItemsText_cons_cons, weightItems, List.length_append, List.length_cons]
      omega

theorem weightMembers_le_length : ∀ (members : List (String × JsonValue)),
    WellFormedMembers members → weightMembers members ≤ (compactMembersText members).length + 1
  | [], _ => Nat.zero_le _
  | [(key, value)], wellFormed => by
      have first := weight_le_length value wellFormed.1
      rw [compactMembersText_singleton, weightMembers, weightMembers]
      simp only [List.length_cons, List.length_append]
      omega
  | (key, value) :: next :: members, wellFormed => by
      have first := weight_le_length value wellFormed.1
      have rest := weightMembers_le_length (next :: members) wellFormed.2
      rw [compactMembersText_cons_cons, weightMembers]
      simp only [List.length_cons, List.length_append]
      omega

end

/-- **`json.loads` inverts the compact text.** -/
theorem loads_compactValue {value : JsonValue} (wellFormed : WellFormed value) :
    loads (compactValue value).toList = some value := by
  have visible := skipBlanks_compactValue wellFormed []
  have read := readValue_compactValue value _ [] wellFormed (weight_le_length value wellFormed)
    (.inl rfl)
  rw [List.append_nil] at visible read
  rw [loads, visible, read]
  rfl

end WolandGuard.JsonValue
