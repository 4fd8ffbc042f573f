import WolandGuard.Data.Readable
import WolandGuard.Telegram.Callbacks
import Mathlib.Data.List.Induction

/-!
# The codec of callback data

The encoders of `callbacks.py`, and what the parsers make of their texts. An
accepted text is the encoding of what was parsed exactly when its characters are
ASCII (`callback_codec_exact_iff`): `str.isdecimal` and `int` take the decimal
digits of every script.
-/

set_option autoImplicit false

namespace WolandGuard.Telegram

open Incidents

/-! ## Encoding -/

/-- `encode_incident_action`. -/
def encodeIncidentAction (incidentId : Uuid) (targetStatus : IncidentStatus)
    (expectedVersion : Nat) : Except CallbackDataError String :=
  match actionCode targetStatus with
  | none => .error .actionCode
  | some code =>
      if !(1 ≤ expectedVersion && expectedVersion ≤ maxExpectedVersion) then
        .error .versionOutOfRange
      else
        let value := "1:" ++ code ++ ":" ++ Uuid.text incidentId ++ ":" ++ toString expectedVersion
        if callbackDataMaxBytes < value.utf8ByteSize then .error .sizeLimit else .ok value

/-- `encode_propose_block`. -/
def encodeProposeBlock (incidentId : Uuid) : Except CallbackDataError String :=
  let value := "1:bp:" ++ Uuid.text incidentId
  if callbackDataMaxBytes < value.utf8ByteSize then .error .sizeLimit else .ok value

/-- The encoder of each action. -/
def CallbackAction.encode : CallbackAction → Except CallbackDataError String
  | .incidentAction incidentId targetStatus expectedVersion =>
      encodeIncidentAction incidentId targetStatus expectedVersion
  | .proposeBlock incidentId => encodeProposeBlock incidentId
  | .decideBlock planId approve => encodeDecideBlock planId approve

/-- `unicodedata` tables in which the decimal digits below 128 are the ASCII
ones. -/
structure DecimalTables extends UnicodeData where
  decimal_ascii (c : Char) : c.toNat < 128 →
    toUnicodeData.decimal c = UnicodeData.ascii.decimal c

/-- The tables on ASCII. -/
def DecimalTables.ascii : DecimalTables := ⟨.ascii, fun _ _ => rfl⟩

/-! ## Reading a UUID -/

theorem hexDigitValue_hexDigit (n : Nat) : hexDigitValue (hexDigit n) = some (n % 16) := by
  have every : ∀ m < 16, hexDigitValue ("0123456789abcdef".toList.getD m '0') = some m := by decide
  exact every _ (Nat.mod_lt n (by decide))

/-- The first digit of a number, and the others. -/
theorem hexText_succ (width n : Nat) :
    (hexText (width + 1) n).toList = hexDigit (n / 16 ^ width) :: (hexText width n).toList := by
  simp only [hexText, String.toList_ofList, List.range_succ_eq_map, List.map_cons, List.map_map]
  refine List.cons_eq_cons.mpr ⟨by simp, List.map_congr_left fun i _ => ?_⟩
  simp only [Function.comp_apply]
  congr 3
  omega

/-- **Digits of a number are read as the number.** -/
theorem read_hexText (width n : Nat) : ∃ digits,
    (hexText width n).toList.mapM hexDigitValue = some digits ∧
      ∀ start, digits.foldl (fun number digit => number * 16 + digit) start =
        start * 16 ^ width + n % 16 ^ width := by
  induction width with
  | zero => exact ⟨[], by simp [hexText], by simp [Nat.mod_one]⟩
  | succ width ih =>
      obtain ⟨digits, read, value⟩ := ih
      refine ⟨n / 16 ^ width % 16 :: digits, ?_, ?_⟩
      · rw [hexText_succ, List.mapM_cons, hexDigitValue_hexDigit, read]
        rfl
      · intro start
        rw [List.foldl_cons, value, Nat.pow_succ, Nat.mod_mul, Nat.add_mul]
        rw [Nat.mul_comm (16 ^ width) 16, ← Nat.mul_assoc, Nat.add_assoc,
          Nat.add_comm (n % 16 ^ width), Nat.mul_comm (16 ^ width)]

theorem dash_notMem_hexText (width n : Nat) : '-' ∉ (hexText width n).toList := by
  intro member
  rw [hexText, String.toList_ofList] at member
  obtain ⟨i, _, same⟩ := List.mem_map.mp member
  have every : ∀ m < 16, "0123456789abcdef".toList.getD m '0' ≠ '-' := by decide
  exact every _ (Nat.mod_lt _ (by decide)) same

/-- Reading two texts one after the other. -/
theorem mapM_append_some {α β : Type} {f : α → Option β} {first second : List α}
    {left right : List β} (first_read : first.mapM f = some left)
    (second_read : second.mapM f = some right) :
    (first ++ second).mapM f = some (left ++ right) := by
  rw [List.mapM_append, first_read, second_read]
  rfl

/-- **A canonical UUID is read back.** -/
theorem parseCanonicalUuid_text (id : Uuid) : parseCanonicalUuid (Uuid.text id) = some id := by
  have kept : ∀ width n, (hexText width n).toList.filter (· ≠ '-') = (hexText width n).toList := by
    intro width n
    refine List.filter_eq_self.mpr fun c member => decide_eq_true fun same => ?_
    exact dash_notMem_hexText width n (same ▸ member)
  have digits_only : (Uuid.text id).toList.filter (· ≠ '-') =
      (hexText 8 (id.toNat / 16 ^ 24)).toList ++ ((hexText 4 (id.toNat / 16 ^ 20)).toList ++
        ((hexText 4 (id.toNat / 16 ^ 16)).toList ++ ((hexText 4 (id.toNat / 16 ^ 12)).toList ++
          (hexText 12 (id.toNat / 16 ^ 0)).toList))) := by
    rw [Uuid.text_toList]
    simp only [List.filter_append, List.filter_cons, kept, ne_eq, not_true_eq_false, decide_false,
      Bool.false_eq_true, if_false]
  obtain ⟨first, first_read, first_value⟩ := read_hexText 8 (id.toNat / 16 ^ 24)
  obtain ⟨second, second_read, second_value⟩ := read_hexText 4 (id.toNat / 16 ^ 20)
  obtain ⟨third, third_read, third_value⟩ := read_hexText 4 (id.toNat / 16 ^ 16)
  obtain ⟨fourth, fourth_read, fourth_value⟩ := read_hexText 4 (id.toNat / 16 ^ 12)
  obtain ⟨fifth, fifth_read, fifth_value⟩ := read_hexText 12 (id.toNat / 16 ^ 0)
  have number : (first ++ (second ++ (third ++ (fourth ++ fifth)))).foldl
      (fun number digit => number * 16 + digit) 0 = id.toNat := by
    simp only [List.foldl_append, first_value, second_value, third_value, fourth_value,
      fifth_value]
    have bound := id.isLt
    omega
  have read := mapM_append_some first_read (mapM_append_some second_read
    (mapM_append_some third_read (mapM_append_some fourth_read fifth_read)))
  unfold parseCanonicalUuid
  rw [digits_only, read]
  dsimp only
  rw [number, BitVec.ofNat_toNat, BitVec.setWidth_eq, if_pos rfl]

/-- A text that is read as a UUID is its canonical one. -/
theorem text_of_parseCanonicalUuid {text : String} {id : Uuid}
    (parsed : parseCanonicalUuid text = some id) : text = Uuid.text id := by
  unfold parseCanonicalUuid at parsed
  split at parsed
  · cases parsed
  · dsimp only at parsed
    split at parsed
    next canonical =>
      obtain rfl := Option.some.inj parsed
      exact canonical.symm
    · cases parsed

/-- **An identifier is read exactly from its text.** -/
theorem parseIdentifier_eq_ok {unicode : UnicodeData} {text : String} {id : Uuid} :
    parseIdentifier unicode text = .ok id ↔ text = Uuid.text id := by
  unfold parseIdentifier
  constructor
  · intro parsed
    split at parsed
    next found =>
      obtain rfl := Except.ok.inj parsed
      exact text_of_parseCanonicalUuid found
    · cases parsed
  · rintro rfl
    rw [parseCanonicalUuid_text]

/-! ## Reading a version -/

/-- The first digit of a positive number. -/
theorem head_toDigits_ne_zero {n : Nat} (positive : 0 < n) :
    (Nat.toDigits 10 n).head? ≠ some '0' := by
  induction n using Nat.strongRecOn with
  | ind n ih =>
      by_cases small : n < 10
      · rw [Nat.toDigits_of_lt_base small, List.head?_cons, ne_eq, Option.some.injEq,
          Nat.digitChar_eq_zero]
        omega
      · rw [Nat.toDigits_of_base_le (by decide) (by omega), List.head?_append]
        have before := ih (n / 10) (by omega) (by omega)
        cases first : (Nat.toDigits 10 (n / 10)).head? with
        | none => exact absurd (List.head?_eq_none_iff.mp first) Nat.toDigits_ne_nil
        | some c =>
            rw [first] at before
            exact before

theorem ofDigitChars_pos {digits : List Char} (each : ∀ c ∈ digits, c.isDigit = true)
    (filled : digits ≠ []) (first : digits.head? ≠ some '0') :
    0 < Nat.ofDigitChars 10 digits 0 := by
  cases digits with
  | nil => exact absurd rfl filled
  | cons c rest =>
      have digit := each c List.mem_cons_self
      have range : 48 ≤ c.toNat ∧ c.toNat ≤ 57 := Char.isDigit_iff_toNat.mp digit
      have different : c ≠ '0' := fun same => first (by rw [same, List.head?_cons])
      have code : c.toNat ≠ 48 := by
        intro same
        exact different (Char.toNat_inj.mp same)
      rw [Nat.ofDigitChars_cons, Nat.ofDigitChars_eq_ofDigitChars_zero]
      have zero : '0'.toNat = 48 := rfl
      have one : 1 ≤ 10 ^ rest.length := Nat.one_le_pow _ _ (by decide)
      have head : 1 ≤ 10 * 0 + (c.toNat - '0'.toNat) := by omega
      have product := Nat.mul_le_mul one head
      omega

/-- **Digits without a leading zero are those of the number they are read as.** -/
theorem toDigits_ofDigitChars {digits : List Char} (each : ∀ c ∈ digits, c.isDigit = true)
    (filled : digits ≠ []) (first : digits.head? ≠ some '0') :
    Nat.toDigits 10 (Nat.ofDigitChars 10 digits 0) = digits := by
  induction digits using List.reverseRecOn with
  | nil => exact absurd rfl filled
  | append_singleton before c ih =>
      have digit := each c (by simp)
      have range : 48 ≤ c.toNat ∧ c.toNat ≤ 57 := Char.isDigit_iff_toNat.mp digit
      have zero : '0'.toNat = 48 := rfl
      have small : c.toNat - '0'.toNat < 10 := by omega
      have last : Nat.toDigits 10 (c.toNat - '0'.toNat) = [c] := by
        rw [Nat.toDigits_of_lt_base small]
        refine congrArg (· :: []) (Char.toNat_inj.mp ?_)
        rw [Nat.toNat_digitChar_of_lt_ten small]
        omega
      rw [Nat.ofDigitChars_append, Nat.ofDigitChars_cons, Nat.ofDigitChars_nil]
      cases before with
      | nil => simpa using last
      | cons head tail =>
          have before_digits : ∀ c ∈ head :: tail, c.isDigit = true := by
            intro c member
            exact each c (List.mem_append_left _ member)
          have before_first : (head :: tail).head? ≠ some '0' := by simpa using first
          have before_filled : head :: tail ≠ [] := List.cons_ne_nil _ _
          rw [← Nat.toDigits_append_toDigits (by decide)
            (ofDigitChars_pos before_digits before_filled before_first) small, last,
            ih before_digits before_filled before_first]

section Versions

variable (unicode : DecimalTables)

theorem exists_of_mapM {α β : Type} {f : α → Option β} {items : List α} {values : List β}
    (read : items.mapM f = some values) : ∀ item ∈ items, ∃ value, f item = some value := by
  induction items generalizing values with
  | nil =>
      intro item member
      cases member
  | cons head rest ih =>
      rw [List.mapM_cons] at read
      obtain ⟨value, found, remaining⟩ := Option.bind_eq_some_iff.mp read
      obtain ⟨others, rest_read, _⟩ := Option.bind_eq_some_iff.mp remaining
      intro item member
      rcases List.mem_cons.mp member with rfl | later
      · exact ⟨value, found⟩
      · exact ih rest_read item later

/-- ASCII digits are read one by one. -/
theorem mapM_decimal {digits : List Char} (each : ∀ c ∈ digits, c.isDigit = true) :
    digits.mapM unicode.decimal = some (digits.map fun c => c.toNat - '0'.toNat) := by
  induction digits with
  | nil => rfl
  | cons c rest ih =>
      have digit := each c List.mem_cons_self
      have range : 48 ≤ c.toNat ∧ c.toNat ≤ 57 := Char.isDigit_iff_toNat.mp digit
      have value : unicode.decimal c = some (c.toNat - '0'.toNat) := by
        rw [unicode.decimal_ascii c (by omega), UnicodeData.ascii]
        simp only [digit, if_true]
      rw [List.mapM_cons, value, ih fun c member => each c (List.mem_cons_of_mem _ member)]
      rfl

theorem foldl_digits (digits : List Char) :
    (digits.map fun c => c.toNat - '0'.toNat).foldl (fun number digit => number * 10 + digit) 0 =
      Nat.ofDigitChars 10 digits 0 := by
  rw [Nat.ofDigitChars_eq_foldl, List.foldl_map]
  simp only [Nat.mul_comm 10]

/-- **A version is read back.** -/
theorem parseVersion_repr {version : Nat} (range : 1 ≤ version ∧ version ≤ maxExpectedVersion) :
    parseVersion unicode.toUnicodeData (toString version) = .ok version := by
  have text : (toString version).toList = Nat.toDigits 10 version := by
    rw [Nat.toString_eq_ofList_toDigits, String.toList_ofList]
  have digits : ∀ c ∈ Nat.toDigits 10 version, c.isDigit = true := fun c member =>
    Nat.isDigit_of_mem_toDigits (by decide) (by decide) member
  have short : ¬ 10 < (toString version).length := by
    rw [← String.length_toList, text, Nat.not_lt, Nat.length_toDigits_le_iff (by decide) (by decide)]
    unfold maxExpectedVersion at range
    omega
  unfold parseVersion
  rw [text, mapM_decimal unicode digits]
  dsimp only
  rw [if_neg, foldl_digits, Nat.ofDigitChars_ten_toDigits, if_pos range]
  rintro (nothing | zero | long)
  · exact Nat.toDigits_ne_nil (List.map_eq_nil_iff.mp nothing)
  · exact head_toDigits_ne_zero (by omega) zero
  · exact short long

/-- A text of ASCII digits that is read as a version is the version's text. -/
theorem text_of_parseVersion {text : String} {version : Nat}
    (parsed : parseVersion unicode.toUnicodeData text = .ok version)
    (ascii : ∀ c ∈ text.toList, c.toNat < 128) :
    text = toString version ∧ 1 ≤ version ∧ version ≤ maxExpectedVersion := by
  unfold parseVersion at parsed
  cases read : text.toList.mapM unicode.decimal with
  | none =>
      rw [read] at parsed
      cases parsed
  | some values =>
      have digits : ∀ c ∈ text.toList, c.isDigit = true := by
        intro c member
        obtain ⟨value, found⟩ := exists_of_mapM read c member
        rw [unicode.decimal_ascii c (ascii c member), UnicodeData.ascii] at found
        by_contra other
        simp [Bool.not_eq_true _ ▸ other] at found
      rw [mapM_decimal unicode digits] at read
      obtain rfl := Option.some.inj read
      rw [mapM_decimal unicode digits] at parsed
      dsimp only at parsed
      split at parsed
      · cases parsed
      next fits =>
        simp only [not_or] at fits
        rw [foldl_digits] at parsed
        split at parsed
        next range =>
          obtain rfl := Except.ok.inj parsed
          refine ⟨?_, range⟩
          rw [Nat.toString_eq_ofList_toDigits, toDigits_ofDigitChars digits
            (fun nothing => fits.1 (by rw [nothing]; rfl)) fits.2.1, String.ofList_toList]
        · cases parsed

end Versions

/-! ## The parts of a text -/

theorem splitColons_intercalate {parts : List String} (whole : ∀ part ∈ parts, ':' ∉ part.toList)
    (filled : parts ≠ []) : splitColons (":".intercalate parts) = parts := by
  rw [splitColons, String.toList_intercalate]
  have colon : ":".toList = [':'] := rfl
  rw [colon, List.splitOn_intercalate ':' (by simpa using whole) (by simpa using filled),
    List.map_map]
  exact (List.map_congr_left fun part _ => String.ofList_toList).trans (List.map_id parts)

theorem intercalate_splitColons (value : String) : ":".intercalate (splitColons value) = value := by
  have colon : ":".toList = [':'] := rfl
  refine String.toList_inj.mp ?_
  rw [splitColons, String.toList_intercalate, colon, List.map_map]
  have same : (String.toList ∘ String.ofList) = id := by
    funext chars
    exact String.toList_ofList
  rw [same, List.map_id, List.intercalate_splitOn]

theorem colon_notMem_text (id : Uuid) : ':' ∉ (Uuid.text id).toList := by
  have group : ∀ width n, ':' ∉ (hexText width n).toList := by
    intro width n member
    rw [hexText, String.toList_ofList] at member
    obtain ⟨i, _, same⟩ := List.mem_map.mp member
    have every : ∀ m < 16, "0123456789abcdef".toList.getD m '0' ≠ ':' := by decide
    exact every _ (Nat.mod_lt _ (by decide)) same
  rw [Uuid.text_toList]
  simp [group]

theorem ascii_text (id : Uuid) : ∀ c ∈ (Uuid.text id).toList, c.toNat < 128 := by
  have group : ∀ width n, ∀ c ∈ (hexText width n).toList, c.toNat < 128 := by
    intro width n c member
    rw [hexText, String.toList_ofList] at member
    obtain ⟨i, _, rfl⟩ := List.mem_map.mp member
    have every : ∀ m < 16, ("0123456789abcdef".toList.getD m '0').toNat < 128 := by decide
    exact every _ (Nat.mod_lt _ (by decide))
  have dash : '-'.toNat < 128 := by decide
  intro c member
  rw [Uuid.text_toList] at member
  simp only [List.mem_append, List.mem_cons] at member
  rcases member with here | rfl | here | rfl | here | rfl | here | rfl | here
  · exact group _ _ c here
  · exact dash
  · exact group _ _ c here
  · exact dash
  · exact group _ _ c here
  · exact dash
  · exact group _ _ c here
  · exact dash
  · exact group _ _ c here

theorem digits_toString (n : Nat) : ∀ c ∈ (toString n).toList, c.isDigit = true := by
  intro c member
  rw [Nat.toString_eq_ofList_toDigits, String.toList_ofList] at member
  exact Nat.isDigit_of_mem_toDigits (by decide) (by decide) member

/-- A text of ASCII characters. -/
def IsAscii (text : String) : Prop := ∀ c ∈ text.toList, c.toNat < 128

theorem isAscii_of_all {text : String}
    (all : (text.toList.all fun c => decide (c.toNat < 128)) = true) : IsAscii text := by
  intro c member
  exact of_decide_eq_true (List.all_eq_true.mp all c member)

theorem isAscii_intercalate {parts : List String} (each : ∀ part ∈ parts, IsAscii part) :
    IsAscii (":".intercalate parts) := by
  induction parts with
  | nil => simp [IsAscii]
  | cons part rest ih =>
      have here := each part List.mem_cons_self
      have later := ih fun other member => each other (List.mem_cons_of_mem _ member)
      cases rest with
      | nil => rwa [String.intercalate_singleton]
      | cons next rest =>
          rw [String.intercalate_cons_cons]
          intro c member
          simp only [String.toList_append, List.mem_append] at member
          rcases member with (there | colon) | there
          · exact here c there
          · have same : c = ':' := by simpa using colon
            rw [same]
            decide
          · exact later c there

/-- The parts of an encoding. -/
def CallbackAction.parts : CallbackAction → List String
  | .incidentAction incidentId targetStatus expectedVersion =>
      ["1", (actionCode targetStatus).getD "", Uuid.text incidentId, toString expectedVersion]
  | .proposeBlock incidentId => ["1", "bp", Uuid.text incidentId]
  | .decideBlock planId approve => ["1", if approve then "ba" else "br", Uuid.text planId]

theorem parts_ne_nil (action : CallbackAction) : action.parts ≠ [] := by
  cases action with
  | incidentAction incidentId targetStatus expectedVersion => exact List.cons_ne_nil _ _
  | proposeBlock incidentId => exact List.cons_ne_nil _ _
  | decideBlock planId approve => exact List.cons_ne_nil _ _

theorem actionCode_letters (status : IncidentStatus) :
    ∀ c ∈ ((actionCode status).getD "").toList, c.toNat < 128 ∧ c ≠ ':' := by
  have letters : (((actionCode status).getD "").toList.all fun c =>
      decide (c.toNat < 128) && c != ':') = true := by
    cases status with
    | new => decide
    | investigating => decide
    | resolved => decide
    | falsePositive => decide
  intro c member
  have letter := List.all_eq_true.mp letters c member
  rwa [Bool.and_eq_true, decide_eq_true_iff, bne_iff_ne] at letter

theorem colon_notMem_parts (action : CallbackAction) : ∀ part ∈ action.parts, ':' ∉ part.toList := by
  have schema : ':' ∉ "1".toList := by decide
  cases action with
  | incidentAction incidentId targetStatus expectedVersion =>
      simp only [CallbackAction.parts, List.forall_mem_cons]
      refine ⟨schema, ?_, colon_notMem_text incidentId, ?_, by simp⟩
      · intro member
        exact (actionCode_letters targetStatus _ member).2 rfl
      · intro member
        exact absurd (digits_toString expectedVersion _ member) (by decide)
  | proposeBlock incidentId =>
      simp only [CallbackAction.parts, List.forall_mem_cons]
      exact ⟨schema, by decide, colon_notMem_text incidentId, by simp⟩
  | decideBlock planId approve =>
      simp only [CallbackAction.parts, List.forall_mem_cons]
      refine ⟨schema, ?_, colon_notMem_text planId, by simp⟩
      cases approve with
      | true => decide
      | false => decide

theorem isAscii_parts (action : CallbackAction) : ∀ part ∈ action.parts, IsAscii part := by
  have schema : IsAscii "1" := isAscii_of_all (by decide)
  cases action with
  | incidentAction incidentId targetStatus expectedVersion =>
      simp only [CallbackAction.parts, List.forall_mem_cons]
      refine ⟨schema, ?_, ascii_text incidentId, ?_, by simp⟩
      · intro c member
        exact (actionCode_letters targetStatus c member).1
      · intro c member
        have digit := digits_toString expectedVersion c member
        have range : 48 ≤ c.toNat ∧ c.toNat ≤ 57 := Char.isDigit_iff_toNat.mp digit
        omega
  | proposeBlock incidentId =>
      simp only [CallbackAction.parts, List.forall_mem_cons]
      refine ⟨schema, isAscii_of_all (by decide), ascii_text incidentId, by simp⟩
  | decideBlock planId approve =>
      simp only [CallbackAction.parts, List.forall_mem_cons]
      refine ⟨schema, isAscii_of_all ?_, ascii_text planId, by simp⟩
      cases approve with
      | true => decide
      | false => decide

/-- What a button may stand for. -/
def CallbackAction.Offered : CallbackAction → Prop
  | .incidentAction _ targetStatus expectedVersion =>
      (actionCode targetStatus).isSome = true ∧
        1 ≤ expectedVersion ∧ expectedVersion ≤ maxExpectedVersion
  | .proposeBlock _ => True
  | .decideBlock _ _ => True

/-- **An encoding is the parts of its action**, within the size limit. -/
theorem encode_eq_ok {action : CallbackAction} {value : String} :
    action.encode = .ok value ↔ action.Offered ∧ value.utf8ByteSize ≤ callbackDataMaxBytes ∧
      value = ":".intercalate action.parts := by
  have bounded : ∀ text : String,
      (if callbackDataMaxBytes < text.utf8ByteSize then Except.error CallbackDataError.sizeLimit
        else .ok text) = .ok value ↔
        value.utf8ByteSize ≤ callbackDataMaxBytes ∧ value = text := by
    intro text
    split
    next long =>
      constructor
      · intro impossible
        cases impossible
      · rintro ⟨short, rfl⟩
        exact absurd long (Nat.not_lt.mpr short)
    next short =>
      rw [Except.ok.injEq]
      refine ⟨?_, fun both => both.2.symm⟩
      rintro rfl
      exact ⟨Nat.not_lt.mp short, rfl⟩
  cases action with
  | incidentAction incidentId targetStatus expectedVersion =>
      have text : ∀ code, "1:" ++ code ++ ":" ++ Uuid.text incidentId ++ ":" ++
          toString expectedVersion =
            ":".intercalate ["1", code, Uuid.text incidentId, toString expectedVersion] := by
        intro code
        refine String.toList_inj.mp ?_
        simp
      rw [CallbackAction.encode, encodeIncidentAction, CallbackAction.Offered, CallbackAction.parts]
      cases actionCode targetStatus with
      | none => simp
      | some code =>
          by_cases range : 1 ≤ expectedVersion ∧ expectedVersion ≤ maxExpectedVersion
          · simp only [range, decide_true, Bool.and_self, Bool.not_true, Bool.false_eq_true,
              if_false, bounded, text, Option.isSome_some, true_and, Option.getD_some]
          · have refused : (!(decide (1 ≤ expectedVersion) &&
                decide (expectedVersion ≤ maxExpectedVersion))) = true := by
              rw [Bool.not_eq_true', ← Bool.decide_and, decide_eq_false_iff_not]
              exact range
            simp only [refused, if_true, reduceCtorEq, range, and_false, false_and]
  | proposeBlock incidentId =>
      have text : "1:bp:" ++ Uuid.text incidentId =
          ":".intercalate ["1", "bp", Uuid.text incidentId] := by
        refine String.toList_inj.mp ?_
        simp
      rw [CallbackAction.encode, encodeProposeBlock, CallbackAction.Offered, CallbackAction.parts,
        true_and, ← text]
      exact bounded _
  | decideBlock planId approve =>
      have text : "1:" ++ (if approve then "ba" else "br") ++ ":" ++ Uuid.text planId =
          ":".intercalate ["1", if approve then "ba" else "br", Uuid.text planId] := by
        refine String.toList_inj.mp ?_
        simp
      rw [CallbackAction.encode, encodeDecideBlock, CallbackAction.Offered,
        CallbackAction.parts, true_and, ← text]
      exact bounded _

/-! ## Parsing -/

section Codec

variable (unicode : DecimalTables)

/-- **What was encoded is parsed back.** -/
theorem parse_of_encode {action : CallbackAction} {value : String}
    (encoded : action.encode = .ok value) :
    parseCallbackData unicode.toUnicodeData value = .ok action ∧
      value.utf8ByteSize ≤ callbackDataMaxBytes := by
  obtain ⟨offered, short, text⟩ := encode_eq_ok.mp encoded
  refine ⟨?_, short⟩
  have fits : ¬ callbackDataMaxBytes < value.utf8ByteSize := Nat.not_lt.mpr short
  have parts : splitColons value = action.parts := by
    rw [text]
    exact splitColons_intercalate (colon_notMem_parts action) (parts_ne_nil action)
  unfold parseCallbackData
  rw [parts]
  cases action with
  | incidentAction incidentId targetStatus expectedVersion =>
      obtain ⟨coded, range⟩ := offered
      obtain ⟨code, found⟩ := Option.isSome_iff_exists.mp coded
      have known : statusByCode code = some targetStatus := by
        cases targetStatus with
        | new => cases found
        | investigating =>
            obtain rfl := Option.some.inj found
            rfl
        | resolved =>
            obtain rfl := Option.some.inj found
            rfl
        | falsePositive =>
            obtain rfl := Option.some.inj found
            rfl
      simp only [CallbackAction.parts, found, Option.getD_some, List.getD_cons_succ,
        List.getD_cons_zero, known, Option.isSome_some, if_true] at parts ⊢
      rw [parseIncidentAction, if_neg fits, parts]
      simp only [known, ne_eq, not_true_eq_false, if_false]
      rw [parseIdentifier_eq_ok.mpr rfl, parseVersion_repr unicode range]
      rfl
  | proposeBlock incidentId =>
      have unknown : statusByCode "bp" = none := rfl
      simp only [CallbackAction.parts, List.getD_cons_succ, List.getD_cons_zero, unknown,
        Option.isSome_none, Bool.false_eq_true, if_false] at parts ⊢
      rw [if_pos (by decide), parseBlockAction, if_neg fits, parts]
      simp only [ne_eq, not_true_eq_false, if_false]
      rw [parseIdentifier_eq_ok.mpr rfl]
      rfl
  | decideBlock planId approve =>
      cases approve with
      | true =>
          have unknown : statusByCode "ba" = none := rfl
          simp only [CallbackAction.parts, if_true, List.getD_cons_succ, List.getD_cons_zero,
            unknown, Option.isSome_none, Bool.false_eq_true, if_false] at parts ⊢
          rw [if_pos (by decide), parseBlockAction, if_neg fits, parts]
          simp only [ne_eq, not_true_eq_false, if_false]
          rw [parseIdentifier_eq_ok.mpr rfl]
          rfl
      | false =>
          have unknown : statusByCode "br" = none := rfl
          simp only [CallbackAction.parts, Bool.false_eq_true, if_false, List.getD_cons_succ,
            List.getD_cons_zero, unknown, Option.isSome_none] at parts ⊢
          rw [if_pos (by decide), parseBlockAction, if_neg fits, parts]
          simp only [ne_eq, not_true_eq_false, if_false]
          rw [parseIdentifier_eq_ok.mpr rfl]
          rfl

/-- What an accepted text is made of: the parts of the action, but for the
spelling of a version. -/
theorem parts_of_parse {value : String} {action : CallbackAction}
    (parsed : parseCallbackData unicode.toUnicodeData value = .ok action) :
    value.utf8ByteSize ≤ callbackDataMaxBytes ∧
      match action with
      | .incidentAction incidentId targetStatus expectedVersion => ∃ code text,
          actionCode targetStatus = some code ∧
          parseVersion unicode.toUnicodeData text = .ok expectedVersion ∧
          splitColons value = ["1", code, Uuid.text incidentId, text]
      | .proposeBlock _ | .decideBlock _ _ => splitColons value = action.parts := by
  unfold parseCallbackData at parsed
  dsimp only at parsed
  split at parsed
  · -- a status transition
    unfold parseIncidentAction at parsed
    split at parsed
    · cases parsed
    next short =>
      refine ⟨Nat.not_lt.mp short, ?_⟩
      split at parsed
      next schemaVersion code rawIncidentId rawExpectedVersion parts =>
        split at parsed
        · cases parsed
        next schema =>
          obtain rfl := not_not.mp schema
          split at parsed
          · cases parsed
          next targetStatus known =>
            cases identified : parseIdentifier unicode.toUnicodeData rawIncidentId with
            | error failure =>
                rw [identified] at parsed
                cases parsed
            | ok incidentId =>
                cases versioned : parseVersion unicode.toUnicodeData rawExpectedVersion with
                | error failure =>
                    rw [identified, versioned] at parsed
                    cases parsed
                | ok expectedVersion =>
                    rw [identified, versioned] at parsed
                    obtain rfl := Except.ok.inj parsed
                    refine ⟨code, rawExpectedVersion, ?_, versioned, ?_⟩
                    · have found := List.find?_some
                        (p := fun status => decide (actionCode status = some code)) known
                      exact of_decide_eq_true found
                    · rw [parts, parseIdentifier_eq_ok.mp identified]
      · cases parsed
  · split at parsed
    · -- a block proposal or decision
      unfold parseBlockAction at parsed
      split at parsed
      · cases parsed
      next short =>
        refine ⟨Nat.not_lt.mp short, ?_⟩
        split at parsed
        next schemaVersion code rawId parts =>
          split at parsed
          · cases parsed
          next schema =>
            obtain rfl := not_not.mp schema
            cases identified : parseIdentifier unicode.toUnicodeData rawId with
            | error failure =>
                rw [identified] at parsed
                cases parsed
            | ok id =>
                rw [identified] at parsed
                have text := parseIdentifier_eq_ok.mp identified
                simp only [bind, Except.bind] at parsed
                split at parsed
                next propose =>
                  obtain rfl := Except.ok.inj parsed
                  rw [parts, text, propose]
                  rfl
                · split at parsed
                  next approve =>
                    obtain rfl := Except.ok.inj parsed
                    rw [parts, text, approve]
                    rfl
                  · split at parsed
                    next reject =>
                      obtain rfl := Except.ok.inj parsed
                      rw [parts, text, reject]
                      rfl
                    · cases parsed
        · cases parsed
    · cases parsed

/-- **Encoding and parsing are inverse on ASCII texts, and only there.** -/
theorem callback_codec_exact_iff :
    (∀ action value, action.encode = .ok value →
      parseCallbackData unicode.toUnicodeData value = .ok action ∧ value.utf8ByteSize ≤ 64) ∧
    ∀ value action, parseCallbackData unicode.toUnicodeData value = .ok action →
      (action.encode = .ok value ↔ ∀ c ∈ value.toList, c.toNat < 128) := by
  constructor
  · intro action value encoded
    exact parse_of_encode unicode encoded
  · intro value action parsed
    obtain ⟨short, spelled⟩ := parts_of_parse unicode parsed
    constructor
    · intro encoded
      obtain ⟨_, _, text⟩ := encode_eq_ok.mp encoded
      rw [text]
      exact isAscii_intercalate (isAscii_parts action)
    · intro ascii
      refine encode_eq_ok.mpr ?_
      cases action with
      | incidentAction incidentId targetStatus expectedVersion =>
          obtain ⟨code, text, coded, versioned, parts⟩ := spelled
          have digits_ascii : ∀ c ∈ text.toList, c.toNat < 128 := by
            intro c member
            refine ascii c ?_
            rw [← intercalate_splitColons value, parts]
            simp [member]
          obtain ⟨rfl, range⟩ := text_of_parseVersion unicode versioned digits_ascii
          refine ⟨⟨by rw [coded]; rfl, range⟩, short, ?_⟩
          rw [CallbackAction.parts, coded, Option.getD_some, ← parts, intercalate_splitColons]
      | proposeBlock incidentId =>
          refine ⟨trivial, short, ?_⟩
          rw [← spelled, intercalate_splitColons]
      | decideBlock planId approve =>
          refine ⟨trivial, short, ?_⟩
          rw [← spelled, intercalate_splitColons]

/-- The tables with the Arabic-Indic digits. -/
def arabicIndic : DecimalTables where
  toUnicodeData :=
    { UnicodeData.ascii with
      decimal := fun c =>
        if 0x660 ≤ c.toNat ∧ c.toNat ≤ 0x669 then some (c.toNat - 0x660)
        else UnicodeData.ascii.decimal c }
  decimal_ascii c small := if_neg fun range => absurd (range.1.trans_lt small) (by decide)

/-- A version in Arabic-Indic digits is accepted, and encoded in others. -/
theorem arabic_version_is_respelled :
    parseCallbackData arabicIndic.toUnicodeData
        "1:iv:00000000-0000-0000-0000-000000000001:\u0663" =
      .ok (.incidentAction 1 .investigating 3) ∧
    (CallbackAction.incidentAction 1 .investigating 3).encode ≠
      .ok "1:iv:00000000-0000-0000-0000-000000000001:\u0663" := by
  constructor
  · decide +kernel
  · decide +kernel

end Codec

end WolandGuard.Telegram
