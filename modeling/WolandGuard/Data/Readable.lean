import WolandGuard.Data.Json

/-!
# Texts that can be read back

String literals, numbers and UUIDs are written so that the text determines what
it was written from, also in front of more text.
-/

set_option autoImplicit false

namespace WolandGuard

/-! ## Hexadecimal digits -/

/-- The value of a lower-case hexadecimal digit. -/
def digitValue (c : Char) : Nat := "0123456789abcdef".toList.idxOf c

theorem digitValue_hexDigit (n : Nat) : digitValue (hexDigit n) = n % 16 := by
  have every : ∀ m < 16, digitValue ("0123456789abcdef".toList.getD m '0') = m := by decide
  exact every _ (Nat.mod_lt n (by decide))

theorem hexDigit_inj {n m : Nat} (same : hexDigit n = hexDigit m) : n % 16 = m % 16 := by
  rw [← digitValue_hexDigit n, same, digitValue_hexDigit]

theorem hexText_length (width n : Nat) : (hexText width n).toList.length = width := by
  simp [hexText]

/-- The digits of a text of a given width determine the number below it. -/
theorem hexText_inj {width n m : Nat} (same : hexText width n = hexText width m) :
    n % 16 ^ width = m % 16 ^ width := by
  have digits : ∀ i < width, n / 16 ^ i % 16 = m / 16 ^ i % 16 := by
    intro i below
    have lists := congrArg String.toList same
    simp only [hexText, String.toList_ofList] at lists
    have place := List.map_inj_left.mp lists (width - 1 - i) (by simp; omega)
    have here : width - 1 - (width - 1 - i) = i := by omega
    rw [here] at place
    exact hexDigit_inj place
  clear same
  induction width with
  | zero => simp [Nat.mod_one]
  | succ width ih =>
      have lower := ih fun i below => digits i (by omega)
      have top := digits width (by omega)
      rw [Nat.pow_succ, Nat.mod_mul, Nat.mod_mul, lower, top]

/-! ## UUIDs -/

/-- The five groups of a UUID. -/
theorem Uuid.text_toList (id : Uuid) :
    (Uuid.text id).toList =
      (hexText 8 (id.toNat / 16 ^ 24)).toList ++ '-' ::
        ((hexText 4 (id.toNat / 16 ^ 20)).toList ++ '-' ::
          ((hexText 4 (id.toNat / 16 ^ 16)).toList ++ '-' ::
            ((hexText 4 (id.toNat / 16 ^ 12)).toList ++ '-' ::
              (hexText 12 (id.toNat / 16 ^ 0)).toList))) := by
  simp [Uuid.text, String.intercalate_cons_cons, String.intercalate_singleton]

theorem length_uuidText (id : Uuid) : (Uuid.text id).toList.length = 36 := by
  rw [Uuid.text_toList]
  simp only [List.length_append, List.length_cons, hexText_length]

/-- Two groups of one width in front of more text are read one by one. -/
theorem group_inj {width n m : Nat} {rest more : List Char}
    (same : (hexText width n).toList ++ rest = (hexText width m).toList ++ more) :
    n % 16 ^ width = m % 16 ^ width ∧ rest = more := by
  obtain ⟨group, remaining⟩ := List.append_inj same (by rw [hexText_length, hexText_length])
  exact ⟨hexText_inj (String.toList_inj.mp group), remaining⟩

/-- **The text of a UUID determines it.** -/
theorem Uuid.text_inj {left right : Uuid} (same : Uuid.text left = Uuid.text right) :
    left = right := by
  have lists := congrArg String.toList same
  rw [Uuid.text_toList, Uuid.text_toList] at lists
  obtain ⟨first, lists⟩ := group_inj lists
  obtain ⟨second, lists⟩ := group_inj (List.cons.inj lists).2
  obtain ⟨third, lists⟩ := group_inj (List.cons.inj lists).2
  obtain ⟨fourth, lists⟩ := group_inj (List.cons.inj lists).2
  have fifth := hexText_inj (String.toList_inj.mp (List.cons.inj lists).2)
  have left_bound := left.isLt
  have right_bound := right.isLt
  exact BitVec.eq_of_toNat_eq (by omega)

/-! ## Numbers -/

theorem toString_nat_inj {n m : Nat} (same : toString (n : Int) = toString (m : Int)) : n = m := by
  have digits : Nat.toDigits 10 n = Nat.toDigits 10 m := by
    have lists : (Nat.repr n).toList = (Nat.repr m).toList := congrArg String.toList same
    rwa [Nat.toList_repr, Nat.toList_repr] at lists
  rw [← Nat.ofDigitChars_ten_toDigits (n := n), digits, Nat.ofDigitChars_ten_toDigits]

/-- No comma is among the digits of a number. -/
theorem comma_notMem_toString (n : Nat) : ',' ∉ (toString (n : Int)).toList := by
  show ',' ∉ (Nat.repr n).toList
  rw [Nat.toList_repr]
  intro member
  exact absurd (Nat.isDigit_of_mem_toDigits (by decide) (by decide) member) (by decide)

/-- What comes before the first separator, and what after it. -/
theorem separator_inj {separator : Char} {left right rest more : List Char}
    (left_free : separator ∉ left) (right_free : separator ∉ right)
    (same : left ++ separator :: rest = right ++ separator :: more) :
    left = right ∧ rest = more := by
  induction left generalizing right with
  | nil =>
      cases right with
      | nil => exact ⟨rfl, (List.cons.inj same).2⟩
      | cons c right =>
          obtain ⟨rfl, _⟩ := List.cons.inj same
          exact absurd List.mem_cons_self right_free
  | cons c left ih =>
      cases right with
      | nil =>
          obtain ⟨rfl, _⟩ := List.cons.inj same
          exact absurd List.mem_cons_self left_free
      | cons d right =>
          obtain ⟨rfl, tails⟩ := List.cons.inj same
          obtain ⟨rfl, rfl⟩ := ih (fun member => left_free (List.mem_cons_of_mem _ member))
            (fun member => right_free (List.mem_cons_of_mem _ member)) tails
          exact ⟨rfl, rfl⟩

/-- A number in front of a comma determines itself. -/
theorem number_append_inj {n m : Nat} {rest more : List Char}
    (same : (toString (n : Int)).toList ++ ',' :: rest = (toString (m : Int)).toList ++ ',' :: more) :
    n = m ∧ rest = more := by
  obtain ⟨digits, remaining⟩ :=
    separator_inj (comma_notMem_toString n) (comma_notMem_toString m) same
  exact ⟨toString_nat_inj (String.toList_inj.mp digits), remaining⟩

/-! ## String literals -/

namespace JsonValue

/-- The first character of an escaped text, and the rest. -/
def unescape : List Char → Option (Char × List Char)
  | '\\' :: 'u' :: _ :: _ :: high :: low :: rest =>
      some (Char.ofNat (16 * digitValue high + digitValue low), rest)
  | '\\' :: 'n' :: rest => some ('\n', rest)
  | '\\' :: 'r' :: rest => some ('\r', rest)
  | '\\' :: 't' :: rest => some ('\t', rest)
  | '\\' :: 'b' :: rest => some (Char.ofNat 8, rest)
  | '\\' :: 'f' :: rest => some (Char.ofNat 12, rest)
  | '\\' :: c :: rest => some (c, rest)
  | '"' :: _ => none
  | c :: rest => some (c, rest)
  | [] => none

theorem unescape_escapeChar (c : Char) (rest : List Char) :
    unescape (escapeChar c ++ rest) = some (c, rest) := by
  unfold escapeChar
  split
  next quotation => subst quotation; rfl
  split
  next backslash => subst backslash; rfl
  split
  next newline => subst newline; rfl
  split
  next ret => subst ret; rfl
  split
  next tab => subst tab; rfl
  split
  next backspace => rw [← Char.ofNat_toNat c, backspace]; rfl
  split
  next feed => rw [← Char.ofNat_toNat c, feed]; rfl
  split
  next control =>
    have value : 16 * digitValue (hexDigit (c.toNat / 16)) + digitValue (hexDigit c.toNat) =
        c.toNat := by
      rw [digitValue_hexDigit, digitValue_hexDigit]
      omega
    simp only [List.cons_append, List.nil_append, unescape, value, Char.ofNat_toNat]
  next quotation backslash _ _ _ _ _ _ =>
    simp only [List.cons_append, List.nil_append]
    unfold unescape
    split <;> simp_all

/-- **A literal in front of more text determines its text.** -/
theorem literal_inj {left right rest more : List Char}
    (same : left.flatMap escapeChar ++ '"' :: rest = right.flatMap escapeChar ++ '"' :: more) :
    left = right ∧ rest = more := by
  induction left generalizing right with
  | nil =>
      cases right with
      | nil => exact ⟨rfl, (List.cons.inj same).2⟩
      | cons c right =>
          have read := congrArg unescape same
          rw [List.flatMap_cons, List.append_assoc, unescape_escapeChar] at read
          cases read
  | cons c left ih =>
      have read := congrArg unescape same
      rw [List.flatMap_cons, List.append_assoc, unescape_escapeChar] at read
      cases right with
      | nil => cases read
      | cons d right =>
          rw [List.flatMap_cons, List.append_assoc, unescape_escapeChar] at read
          obtain ⟨rfl, remaining⟩ := Prod.mk.inj (Option.some.inj read)
          obtain ⟨rfl, rfl⟩ := ih remaining
          exact ⟨rfl, rfl⟩

theorem quote_toList (text : String) :
    (quote text).toList = '"' :: (text.toList.flatMap escapeChar ++ ['"']) := by
  simp [quote]

/-- A string literal in front of more text determines its text. -/
theorem quote_append_inj {left right : String} {rest more : List Char}
    (same : (quote left).toList ++ rest = (quote right).toList ++ more) :
    left = right ∧ rest = more := by
  rw [quote_toList, quote_toList] at same
  simp only [List.cons_append, List.append_assoc, List.nil_append, List.cons.injEq,
    true_and] at same
  obtain ⟨texts, rests⟩ := literal_inj same
  exact ⟨String.toList_inj.mp texts, rests⟩

/-- An optional text in front of more text determines itself. -/
theorem ofOption_append_inj {left right : Option String} {rest more : List Char}
    (same : (canonicalValue (ofOption left)).toList ++ rest =
      (canonicalValue (ofOption right)).toList ++ more) : left = right ∧ rest = more := by
  cases left with
  | none =>
      cases right with
      | none => exact ⟨rfl, List.append_cancel_left same⟩
      | some text =>
          simp [ofOption, canonicalValue, quote_toList] at same
  | some text =>
      cases right with
      | none => simp [ofOption, canonicalValue, quote_toList] at same
      | some other =>
          simp only [ofOption, canonicalValue] at same
          obtain ⟨rfl, rfl⟩ := quote_append_inj same
          exact ⟨rfl, rfl⟩

/-! ## Objects -/

/-- An object whose members are in key order is written in that order. -/
theorem canonicalValue_obj {members : List (String × JsonValue)}
    (sorted : (canonicalMembers members).Pairwise fun left right => keyOrder left right = true) :
    canonicalValue (.obj members) =
      "\x7b" ++ ",".intercalate
        ((canonicalMembers members).map fun entry => quote entry.1 ++ ":" ++ entry.2) ++ "\x7d" := by
  rw [canonicalValue, List.Pairwise.insertionSort_eq sorted]

end JsonValue

end WolandGuard
