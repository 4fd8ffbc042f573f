import Mathlib.Data.List.Forall2
import WolandGuard.Data.JsonCompact
import WolandGuard.Data.Utf8
import WolandGuard.Foundations.Parts

/-!
# Url-encoded forms

`urllib.parse`: `parse_qsl` with `keep_blank_values`, `strict_parsing`,
`max_num_fields` and strict UTF-8, on texts of ASCII.

A form may be written in many ways (`WritesForm`): a byte of a name or of a value
stands for itself or is escaped with two digits of either case, and a space is also
written with a plus sign. What is read is exactly what was written (`parseQsl_exact`).
-/

set_option autoImplicit false

namespace WolandGuard.UrlEncoded

open Foundations JsonValue

/-! ## Reading -/

/-- `_hextobytes`: a byte from two digits. -/
def hexByte : List Char → Option (Nat × List Char)
  | a :: b :: rest =>
      match hexValue? a, hexValue? b with
      | some high, some low => some (16 * high + low, rest)
      | _, _ => none
  | _ => none

/-- `%(?![0-9A-Fa-f]{2})` is found: a percent sign is not followed by two digits. -/
def hasBareEscape : List Char → Bool
  | [] => false
  | c :: rest => (c = '%' && (hexByte rest).isNone) || hasBareEscape rest

/-- The first byte that `unquote_to_bytes` reads. -/
def unquoteStep : List Char → Option (Nat × List Char)
  | [] => none
  | c :: rest => if c = '%' then some ((hexByte rest).getD (0x25, rest)) else some (c.toNat, rest)

/-- `unquote`, of an ASCII text. -/
def unquote (text : List Char) : Option String :=
  if '%' ∉ text then some (String.ofList text)
  else ((readAll unquoteStep text.length text).bind utf8Decode).map String.ofList

/-- `text.replace("+", " ")`. -/
def plusToSpace (text : List Char) : List Char := text.map fun c => if c = '+' then ' ' else c

/-- A name and a value. -/
def parseField (nameValue : List Char) : Option (String × String) :=
  match cutFirst '=' nameValue with
  | none => none
  | some (name, value) => do
      let name ← unquote (plusToSpace name)
      let value ← unquote (plusToSpace value)
      return (name, value)

/-- `parse_qsl`. -/
def parseQsl (text : List Char) (maxNumFields : Nat) : Option (List (String × String)) :=
  if text = [] then some []
  else if maxNumFields < 1 + text.count '&' then none
  else (text.splitOn '&').mapM parseField

/-! ## Writing -/

/-- The ways to write a byte, where marks do not stand for themselves. -/
inductive WritesByte (marks : List Char) : Nat → List Char → Prop where
  | space : WritesByte marks 0x20 ['+']
  | escaped {a b : Char} {high low : Nat} : hexValue? a = some high → hexValue? b = some low →
      WritesByte marks (16 * high + low) ['%', a, b]
  | plain {c : Char} : c.toNat < 0x80 → c ≠ '+' → c ≠ '%' → c ∉ marks →
      WritesByte marks c.toNat [c]

/-- The ways to write some bytes. -/
inductive WritesBytes (marks : List Char) : List Nat → List Char → Prop where
  | nil : WritesBytes marks [] []
  | cons {byte : Nat} {code : List Char} {bytes : List Nat} {rest : List Char} :
      WritesByte marks byte code → WritesBytes marks bytes rest →
      WritesBytes marks (byte :: bytes) (code ++ rest)

/-- The ways to write a field: the name does not have an equals sign. -/
def WritesField (field : String × String) (text : List Char) : Prop :=
  ∃ name value, text = name ++ '=' :: value ∧ WritesBytes ['&', '='] (utf8 field.1) name ∧
    WritesBytes ['&'] (utf8 field.2) value

/-- The ways to write a form. -/
def WritesForm (fields : List (String × String)) (text : List Char) : Prop :=
  ∃ parts, List.Forall₂ WritesField fields parts ∧ text = ['&'].intercalate parts

/-- A text that a request body can spell: ASCII, with every percent sign followed by
two digits. -/
def Escaped (text : List Char) : Prop := (∀ c ∈ text, c.toNat < 0x80) ∧ hasBareEscape text = false

/-! ## Digits and marks -/

/-- A digit is ASCII, and no character with a meaning of its own. -/
theorem digit_spec {c : Char} {value : Nat} (digit : hexValue? c = some value) :
    c.toNat < 0x80 ∧ c ∉ ['+', '%', '&', '='] := by
  have member : c ∈ "0123456789abcdefABCDEF".toList := by
    have split_digits : "0123456789abcdefABCDEF".toList =
        "0123456789".toList ++ ("abcdef".toList ++ "ABCDEF".toList) := by decide
    rw [split_digits, List.mem_append, List.mem_append]
    unfold hexValue? at digit
    split at digit
    next decimal => exact .inl (List.contains_iff_mem.mp decimal)
    split at digit
    next lower => exact .inr (.inl (List.contains_iff_mem.mp lower))
    split at digit
    next upper => exact .inr (.inr (List.contains_iff_mem.mp upper))
    · cases digit
  have every : ("0123456789abcdefABCDEF".toList.all fun c =>
      decide (c.toNat < 0x80) && !(['+', '%', '&', '='].contains c)) = true := by decide
  simpa using List.all_eq_true.mp every c member

theorem hexByte_eq_some {text rest : List Char} {byte : Nat} :
    hexByte text = some (byte, rest) ↔
      ∃ a b high low, text = a :: b :: rest ∧ hexValue? a = some high ∧ hexValue? b = some low ∧
        byte = 16 * high + low := by
  constructor
  · intro read
    unfold hexByte at read
    split at read
    next a b more =>
      split at read
      next high low first second =>
        obtain ⟨rfl, rfl⟩ := Prod.mk.inj (Option.some.inj read)
        exact ⟨a, b, high, low, rfl, first, second, rfl⟩
      · cases read
    · cases read
  · rintro ⟨a, b, high, low, rfl, first, second, rfl⟩
    rw [hexByte, first, second]

/-- A character that no digit follows ends what is looked at for an escape. -/
theorem isNone_hexByte_append {mark : Char} (no_digit : hexValue? mark = none)
    (front back : List Char) :
    (hexByte (front ++ mark :: back)).isNone = (hexByte front).isNone := by
  match front with
  | [] =>
      cases back with
      | nil => rfl
      | cons b back => rw [List.nil_append, hexByte, no_digit]; rfl
  | [a] =>
      rw [List.singleton_append, hexByte, no_digit]
      cases hexValue? a <;> rfl
  | a :: b :: front =>
      rw [List.cons_append, List.cons_append, hexByte, hexByte]
      cases hexValue? a with
      | none => rfl
      | some high =>
          cases hexValue? b with
          | none => rfl
          | some low => rfl

theorem hasBareEscape_append {mark : Char} (no_digit : hexValue? mark = none)
    (front back : List Char) :
    hasBareEscape (front ++ mark :: back) = (hasBareEscape front || hasBareEscape (mark :: back)) := by
  induction front with
  | nil => rfl
  | cons c front ih =>
      rw [List.cons_append, hasBareEscape, hasBareEscape, ih, isNone_hexByte_append no_digit,
        Bool.or_assoc]

namespace Escaped

theorem nil : Escaped [] := ⟨fun _ member => absurd member List.not_mem_nil, rfl⟩

theorem tail {c : Char} {rest : List Char} (escaped : Escaped (c :: rest)) : Escaped rest := by
  obtain ⟨ascii, whole⟩ := escaped
  rw [hasBareEscape, Bool.or_eq_false_iff] at whole
  exact ⟨fun d member => ascii d (List.mem_cons_of_mem _ member), whole.2⟩

/-- A text is escaped if its parts are. -/
theorem append_iff {mark : Char} (is_mark : mark = '&' ∨ mark = '=') {front back : List Char} :
    Escaped (front ++ mark :: back) ↔ Escaped front ∧ Escaped back := by
  have no_digit : hexValue? mark = none := by
    rcases is_mark with rfl | rfl <;> decide
  have ascii_mark : mark.toNat < 0x80 := by
    rcases is_mark with rfl | rfl <;> decide
  have no_escape : (mark = '%' : Bool) = false := by
    rcases is_mark with rfl | rfl <;> decide
  unfold Escaped
  rw [hasBareEscape_append no_digit, hasBareEscape, no_escape, Bool.false_and, Bool.false_or,
    Bool.or_eq_false_iff]
  simp only [List.mem_append, List.mem_cons]
  constructor
  · rintro ⟨ascii, whole_front, whole_back⟩
    exact ⟨⟨fun c member => ascii c (.inl member), whole_front⟩,
      fun c member => ascii c (.inr (.inr member)), whole_back⟩
  · rintro ⟨⟨ascii_front, whole_front⟩, ascii_back, whole_back⟩
    refine ⟨?_, whole_front, whole_back⟩
    rintro c (member | rfl | member)
    · exact ascii_front c member
    · exact ascii_mark
    · exact ascii_back c member

theorem intercalate_iff {parts : List (List Char)} :
    Escaped (['&'].intercalate parts) ↔ ∀ part ∈ parts, Escaped part := by
  induction parts with
  | nil => simpa using nil
  | cons part parts ih =>
      cases parts with
      | nil => simp
      | cons other parts =>
          rw [List.intercalate_cons_cons, List.append_assoc, List.singleton_append,
            append_iff (.inl rfl), ih]
          simp

end Escaped

/-! ## Bytes -/

section Bytes

variable {marks : List Char} {byte : Nat} {bytes : List Nat} {code : List Char}

theorem plusToSpace_cons_of_ne {c : Char} (other : c ≠ '+') (rest : List Char) :
    plusToSpace (c :: rest) = c :: plusToSpace rest := by
  rw [plusToSpace, List.map_cons, if_neg other]
  rfl

theorem plusToSpace_digits {a b : Char} {high low : Nat} (first : hexValue? a = some high)
    (second : hexValue? b = some low) (rest : List Char) :
    plusToSpace ('%' :: a :: b :: rest) = '%' :: a :: b :: plusToSpace rest := by
  have first_other : a ≠ '+' := fun same => (digit_spec first).2 (by simp [same])
  have second_other : b ≠ '+' := fun same => (digit_spec second).2 (by simp [same])
  rw [plusToSpace_cons_of_ne (by decide), plusToSpace_cons_of_ne first_other,
    plusToSpace_cons_of_ne second_other]

theorem unquoteStep_digits {a b : Char} {high low : Nat} (first : hexValue? a = some high)
    (second : hexValue? b = some low) (rest : List Char) :
    unquoteStep ('%' :: a :: b :: rest) = some (16 * high + low, rest) := by
  rw [unquoteStep, if_pos rfl, hexByte_eq_some.mpr ⟨a, b, high, low, rfl, first, second, rfl⟩]
  rfl

theorem unquoteStep_of_ne {c : Char} (other : c ≠ '%') (rest : List Char) :
    unquoteStep (c :: rest) = some (c.toNat, rest) := by
  rw [unquoteStep, if_neg other]

/-- **A written byte is read back**, in front of any text. -/
theorem WritesByte.read (writes : WritesByte marks byte code) (rest : List Char) :
    unquoteStep (plusToSpace (code ++ rest)) = some (byte, plusToSpace rest) := by
  cases writes with
  | space => rfl
  | escaped first second =>
      rw [List.cons_append, List.cons_append, List.cons_append, List.nil_append,
        plusToSpace_digits first second, unquoteStep_digits first second]
  | plain _ not_plus not_percent _ =>
      rw [List.singleton_append, plusToSpace_cons_of_ne not_plus, unquoteStep_of_ne not_percent]

theorem WritesByte.ne_nil (writes : WritesByte marks byte code) : code ≠ [] := by
  cases writes <;> exact List.cons_ne_nil _ _

theorem length_plusToSpace (text : List Char) : (plusToSpace text).length = text.length :=
  List.length_map _

/-- **Written bytes are read back.** -/
theorem WritesBytes.read (writes : WritesBytes marks bytes code) {fuel : Nat}
    (enough : code.length ≤ fuel) : readAll unquoteStep fuel (plusToSpace code) = some bytes := by
  induction writes generalizing fuel with
  | nil => cases fuel <;> rfl
  | @cons byte code bytes rest first _ ih =>
      have step := first.read rest
      obtain ⟨c, more, shape⟩ := List.exists_cons_of_ne_nil first.ne_nil
      obtain ⟨d, others, read⟩ : ∃ d others, plusToSpace (code ++ rest) = d :: others := by
        rw [shape]
        exact ⟨_, _, rfl⟩
      rw [shape, List.cons_append, List.length_cons, List.length_append] at enough
      cases fuel with
      | zero => exact absurd enough (by omega)
      | succ fuel =>
          rw [read] at step ⊢
          rw [readAll, step]
          dsimp only
          rw [ih (by omega)]
          rfl

/-- **What is read was written.** -/
theorem writesBytes_of_read (escaped : Escaped code) (absent : ∀ mark ∈ marks, mark ∉ code)
    {fuel : Nat} (read : readAll unquoteStep fuel (plusToSpace code) = some bytes) :
    WritesBytes marks bytes code := by
  induction fuel generalizing code bytes with
  | zero =>
      cases code with
      | nil =>
          obtain rfl := Option.some.inj read
          exact .nil
      | cons c rest => cases read
  | succ fuel ih =>
      cases code with
      | nil =>
          obtain rfl := Option.some.inj read
          exact .nil
      | cons c rest =>
          have later : ∀ mark ∈ marks, mark ∉ rest :=
            fun mark member there => absent mark member (List.mem_cons_of_mem _ there)
          -- the first byte is that of `c`, or of the two digits behind it
          have next_byte : ∀ byte more, (∀ mark ∈ marks, mark ∉ more) → Escaped more →
              unquoteStep (plusToSpace (c :: rest)) = some (byte, plusToSpace more) →
              ∃ others, bytes = byte :: others ∧ WritesBytes marks others more := by
            intro byte more absent_more escaped_more step
            obtain ⟨d, tail, shape⟩ : ∃ d tail, plusToSpace (c :: rest) = d :: tail := ⟨_, _, rfl⟩
            rw [shape] at step read
            rw [readAll, step] at read
            obtain ⟨others, read_more, rfl⟩ := Option.map_eq_some_iff.mp read
            exact ⟨others, rfl, ih escaped_more absent_more read_more⟩
          by_cases percent : c = '%'
          · subst percent
            have bare := escaped.2
            rw [hasBareEscape, Bool.or_eq_false_iff, decide_eq_true (rfl : '%' = '%'), Bool.true_and,
              Option.isNone_eq_false_iff, Option.isSome_iff_exists] at bare
            obtain ⟨⟨⟨byte, more⟩, digits⟩, _⟩ := bare
            obtain ⟨a, b, high, low, rfl, first, second, rfl⟩ := hexByte_eq_some.mp digits
            have step : unquoteStep (plusToSpace ('%' :: a :: b :: more)) =
                some (16 * high + low, plusToSpace more) := by
              rw [plusToSpace_digits first second, unquoteStep_digits first second]
            obtain ⟨others, rfl, written⟩ := next_byte _ more
              (fun mark member there => later mark member
                (List.mem_cons_of_mem _ (List.mem_cons_of_mem _ there)))
              escaped.tail.tail.tail step
            exact .cons (.escaped first second) written
          by_cases plus : c = '+'
          · subst plus
            obtain ⟨others, rfl, written⟩ := next_byte 0x20 rest later escaped.tail rfl
            exact .cons .space written
          · have step : unquoteStep (plusToSpace (c :: rest)) = some (c.toNat, plusToSpace rest) := by
              rw [plusToSpace_cons_of_ne plus, unquoteStep_of_ne percent]
            obtain ⟨others, rfl, written⟩ := next_byte _ rest later escaped.tail step
            refine .cons (.plain (escaped.1 c (List.mem_cons_self ..)) plus percent fun mark => ?_) written
            exact absent c mark (List.mem_cons_self ..)

/-- What is written is escaped, and has no mark. -/
theorem WritesBytes.escaped (writes : WritesBytes marks bytes code)
    (are_marks : marks ⊆ ['&', '=']) : Escaped code ∧ ∀ mark ∈ marks, mark ∉ code := by
  induction writes with
  | nil => exact ⟨.nil, fun _ _ => List.not_mem_nil⟩
  | @cons byte code bytes rest first _ ih =>
      obtain ⟨⟨ascii, whole⟩, absent⟩ := ih
      cases first with
      | space =>
          refine ⟨⟨?_, ?_⟩, ?_⟩
          · intro c member
            rcases List.mem_cons.mp member with rfl | there
            · decide
            · exact ascii c there
          · exact whole
          · intro mark is_mark member
            rcases List.mem_cons.mp member with rfl | there
            · exact absurd (are_marks is_mark) (by decide)
            · exact absent mark is_mark there
      | @escaped a b high low first second =>
          have digits : hexByte (a :: b :: rest) = some (16 * high + low, rest) :=
            hexByte_eq_some.mpr ⟨a, b, high, low, rfl, first, second, rfl⟩
          have no_percent : ∀ {c value}, hexValue? c = some value → (c = '%' : Bool) = false := by
            intro c value digit
            exact decide_eq_false fun same => (digit_spec digit).2 (by simp [same])
          refine ⟨⟨?_, ?_⟩, ?_⟩
          · intro c member
            simp only [List.cons_append, List.nil_append, List.mem_cons] at member
            rcases member with rfl | rfl | rfl | there
            · decide
            · exact (digit_spec first).1
            · exact (digit_spec second).1
            · exact ascii c there
          · simp only [List.cons_append, List.nil_append, hasBareEscape, digits, no_percent first,
              no_percent second, whole]
            rfl
          · intro mark is_mark member
            have special := are_marks is_mark
            simp only [List.cons_append, List.nil_append, List.mem_cons] at member
            rcases member with rfl | rfl | rfl | there
            · exact absurd special (by decide)
            · exact (digit_spec first).2 (by simpa using .inr (.inr (by simpa using special)))
            · exact (digit_spec second).2 (by simpa using .inr (.inr (by simpa using special)))
            · exact absent mark is_mark there
      | @plain c small not_plus not_percent no_mark =>
          refine ⟨⟨?_, ?_⟩, ?_⟩
          · intro d member
            rcases List.mem_cons.mp member with rfl | there
            · exact small
            · exact ascii d there
          · rw [List.singleton_append, hasBareEscape, decide_eq_false not_percent, whole]
            rfl
          · intro mark is_mark member
            rcases List.mem_cons.mp member with rfl | there
            · exact no_mark is_mark
            · exact absent mark is_mark there

end Bytes

/-! ## Texts -/

section Texts

variable {marks : List Char} {code text : List Char}

/-- ASCII characters are their own bytes. -/
theorem utf8_ascii (ascii : ∀ c ∈ text, c.toNat < 0x80) :
    utf8 (String.ofList text) = text.map Char.toNat := by
  rw [utf8_eq, String.toList_ofList]
  induction text with
  | nil => rfl
  | cons c rest ih =>
      have one : utf8Char c = [c.toNat] := by
        rw [utf8Char, if_pos (ascii c (List.mem_cons_self ..))]
      rw [List.flatMap_cons, one, ih fun d member => ascii d (List.mem_cons_of_mem _ member)]
      rfl

theorem readAll_unquoteStep_of_notMem (no_escape : '%' ∉ text) {fuel : Nat}
    (enough : text.length ≤ fuel) :
    readAll unquoteStep fuel text = some (text.map Char.toNat) := by
  induction text generalizing fuel with
  | nil => cases fuel <;> rfl
  | cons c rest ih =>
      rw [List.mem_cons, not_or] at no_escape
      rw [List.length_cons] at enough
      cases fuel with
      | zero => exact absurd enough (by omega)
      | succ fuel =>
          rw [readAll, unquoteStep_of_ne (Ne.symm no_escape.1)]
          dsimp only
          rw [ih no_escape.2 (by omega)]
          rfl

/-- An ASCII text is read byte by byte, also where `unquote` returns it at once. -/
theorem unquote_eq (ascii : ∀ c ∈ text, c.toNat < 0x80) :
    unquote text =
      ((readAll unquoteStep text.length text).bind utf8Decode).map String.ofList := by
  unfold unquote
  split
  next no_escape =>
    rw [readAll_unquoteStep_of_notMem no_escape le_rfl, ← utf8_ascii ascii, Option.bind_some,
      utf8Decode_utf8, String.toList_ofList, Option.map_some]
  · rfl

theorem ascii_plusToSpace (ascii : ∀ c ∈ text, c.toNat < 0x80) :
    ∀ c ∈ plusToSpace text, c.toNat < 0x80 := by
  intro c member
  obtain ⟨d, there, rfl⟩ := List.mem_map.mp member
  split
  · decide
  · exact ascii d there

/-- **A text is read exactly from the ways to write it.** -/
theorem unquote_eq_some (are_marks : marks ⊆ ['&', '=']) {value : String} :
    (Escaped code ∧ (∀ mark ∈ marks, mark ∉ code) ∧ unquote (plusToSpace code) = some value) ↔
      WritesBytes marks (utf8 value) code := by
  constructor
  · rintro ⟨escaped, absent, read⟩
    rw [unquote_eq (ascii_plusToSpace escaped.1), Option.map_eq_some_iff] at read
    obtain ⟨chars, decoded, rfl⟩ := read
    obtain ⟨bytes, bytes_read, decodes⟩ := Option.bind_eq_some_iff.mp decoded
    rw [← utf8Decode_eq_some.mp decodes]
    exact writesBytes_of_read escaped absent bytes_read
  · intro writes
    obtain ⟨escaped, absent⟩ := writes.escaped are_marks
    refine ⟨escaped, absent, ?_⟩
    rw [unquote_eq (ascii_plusToSpace escaped.1), length_plusToSpace, writes.read le_rfl,
      Option.bind_some, utf8Decode_utf8, Option.map_some, String.ofList_toList]

end Texts

/-! ## Forms -/

/-- **A field is read exactly from the ways to write it.** -/
theorem parseField_eq_some {part : List Char} {field : String × String} :
    (Escaped part ∧ '&' ∉ part ∧ parseField part = some field) ↔ WritesField field part := by
  constructor
  · rintro ⟨escaped, absent, read⟩
    unfold parseField at read
    split at read
    · cases read
    next name value cut =>
      obtain ⟨rfl, no_equals⟩ := cutFirst_eq_some.mp cut
      simp only [Option.bind_eq_bind, Option.bind_eq_some_iff, Option.pure_def] at read
      obtain ⟨first, read_name, second, read_value, same⟩ := read
      obtain rfl := Option.some.inj same
      obtain ⟨escaped_name, escaped_value⟩ := (Escaped.append_iff (.inr rfl)).mp escaped
      simp only [List.mem_append, List.mem_cons, not_or] at absent
      refine ⟨name, value, rfl, ?_, ?_⟩
      · refine (unquote_eq_some (List.Subset.refl _)).mp ⟨escaped_name, ?_, read_name⟩
        simpa using ⟨absent.1, no_equals⟩
      · refine (unquote_eq_some (by simp)).mp ⟨escaped_value, ?_, read_value⟩
        simpa using absent.2.2
  · rintro ⟨name, value, rfl, writes_name, writes_value⟩
    obtain ⟨escaped_name, absent_name, read_name⟩ :=
      (unquote_eq_some (List.Subset.refl _)).mpr writes_name
    obtain ⟨escaped_value, absent_value, read_value⟩ :=
      (unquote_eq_some (by simp)).mpr writes_value
    refine ⟨(Escaped.append_iff (.inr rfl)).mpr ⟨escaped_name, escaped_value⟩, ?_, ?_⟩
    · have no_name := absent_name '&' (by simp)
      have no_value := absent_value '&' (by simp)
      simp [no_name, no_value]
    · have cut : cutFirst '=' (name ++ '=' :: value) = some (name, value) :=
        cutFirst_eq_some.mpr ⟨rfl, absent_name '=' (by simp)⟩
      rw [parseField, cut]
      simp [read_name, read_value]

theorem mapM_parseField_iff {parts : List (List Char)} {fields : List (String × String)} :
    parts.mapM parseField = some fields ↔
      List.Forall₂ (fun field part => parseField part = some field) fields parts := by
  induction parts generalizing fields with
  | nil => simp
  | cons part parts ih =>
      simp only [List.mapM_cons, Option.bind_eq_bind, Option.bind_eq_some_iff, Option.pure_def,
        Option.some.injEq]
      constructor
      · rintro ⟨field, first, others, read, rfl⟩
        exact .cons first (ih.mp read)
      · intro each
        cases each with
        | cons first later => exact ⟨_, first, _, ih.mpr later, rfl⟩

/-- **A form is read exactly from the ways to write it.** -/
theorem parseQsl_exact {text : List Char} {maxNumFields : Nat} {fields : List (String × String)} :
    (Escaped text ∧ parseQsl text maxNumFields = some fields) ↔
      WritesForm fields text ∧ fields.length ≤ maxNumFields := by
  constructor
  · rintro ⟨escaped, read⟩
    unfold parseQsl at read
    split at read
    next empty =>
      obtain rfl := Option.some.inj read
      exact ⟨⟨[], .nil, empty⟩, Nat.zero_le _⟩
    next filled =>
      split at read
      · cases read
      next few =>
        have joined : text = ['&'].intercalate (text.splitOn '&') := (List.intercalate_splitOn '&').symm
        have each := mapM_parseField_iff.mp read
        have parts_escaped : ∀ part ∈ text.splitOn '&', Escaped part := by
          rw [joined] at escaped
          exact Escaped.intercalate_iff.mp escaped
        refine ⟨⟨text.splitOn '&', ?_, joined⟩, ?_⟩
        · refine (List.forall₂_iff_zip.mpr ⟨each.length_eq, fun {field part} together => ?_⟩)
          have member := (List.of_mem_zip together).2
          exact parseField_eq_some.mp ⟨parts_escaped part member, notMem_of_mem_splitOn member,
            (List.forall₂_iff_zip.mp each).2 together⟩
        · rw [each.length_eq, length_splitOn]
          omega
  · rintro ⟨⟨parts, each, rfl⟩, few⟩
    have reads : List.Forall₂ (fun part field => (Escaped part ∧ '&' ∉ part) ∧
        parseField part = some field) parts fields := by
      refine each.flip.imp fun part field writes => ?_
      obtain ⟨escaped, absent, read⟩ := parseField_eq_some.mpr writes
      exact ⟨⟨escaped, absent⟩, read⟩
    obtain ⟨spec, read⟩ := (List.forall₂_and_left parts fields).mp reads
    refine ⟨Escaped.intercalate_iff.mpr fun part member => (spec part member).1, ?_⟩
    have all : parts.mapM parseField = some fields := mapM_parseField_iff.mpr read.flip
    cases parts with
    | nil =>
        cases each
        rfl
    | cons part parts =>
        have cut : (['&'].intercalate (part :: parts)).splitOn '&' = part :: parts :=
          List.splitOn_intercalate '&' (fun part member => (spec part member).2)
            (List.cons_ne_nil _ _)
        have count := @length_splitOn _ _ '&' (['&'].intercalate (part :: parts))
        rw [cut, ← each.length_eq] at count
        unfold parseQsl
        split
        next empty =>
          -- the empty text has one part, which is no field
          rw [empty, List.splitOn_nil] at cut
          obtain ⟨rfl, rfl⟩ := List.cons.inj cut
          cases all
        · rw [if_neg (by omega), cut, all]

/-- Every text can be written. -/
theorem exists_writesBytes (marks : List Char) (text : String) :
    ∃ code, WritesBytes marks (utf8 text) code := by
  have small := utf8_small text
  generalize utf8 text = bytes at small
  induction bytes with
  | nil => exact ⟨[], .nil⟩
  | cons byte bytes ih =>
      obtain ⟨code, writes⟩ := ih fun other member => small other (List.mem_cons_of_mem _ member)
      have byte_small := small byte (List.mem_cons_self ..)
      have first := @WritesByte.escaped marks _ _ _ _ (hexValue?_hexDigit (byte / 16))
        (hexValue?_hexDigit byte)
      have value : 16 * (byte / 16 % 16) + byte % 16 = byte := by omega
      rw [value] at first
      exact ⟨_, .cons first writes⟩

/-- Every form can be written. -/
theorem exists_writesForm (fields : List (String × String)) : ∃ text, WritesForm fields text := by
  have each : ∃ parts, List.Forall₂ WritesField fields parts := by
    induction fields with
    | nil => exact ⟨[], .nil⟩
    | cons field fields ih =>
        obtain ⟨parts, later⟩ := ih
        obtain ⟨name, writes_name⟩ := exists_writesBytes ['&', '='] field.1
        obtain ⟨value, writes_value⟩ := exists_writesBytes ['&'] field.2
        exact ⟨_, .cons ⟨name, value, rfl, writes_name, writes_value⟩ later⟩
  obtain ⟨parts, writes⟩ := each
  exact ⟨_, parts, writes, rfl⟩

end WolandGuard.UrlEncoded
