import WolandGuard.Dashboard.Contexts
import WolandGuard.Data.IsoFormat
import WolandGuard.Data.JsonEquality
import WolandGuard.Data.JsonSize
import WolandGuard.Foundations.Base64
import WolandGuard.Telegram.CallbackCodec

/-!
# Dashboard cursors

`application/dashboard_pagination.py`: a cursor is the base64 of a canonical JSON
object with the context of the list and the keys of the last row, and the decoder
checks every field of it against the context of the request.
-/

set_option autoImplicit false

namespace WolandGuard.Dashboard

open Foundations JsonValue
open Telegram (parseCanonicalUuid)

/-! ## Ordering keys -/

/-- `MAX_DASHBOARD_CURSOR_LENGTH`. -/
def maxDashboardCursorLength : Nat := 1024

/-- A component of the keys of a row. -/
inductive CursorKey where
  | text (value : String)
  | integer (value : Int)
  | uuid (value : Uuid)
  | datetime (value : Int)
  deriving DecidableEq

inductive KeyKind where
  | text
  | uuid
  | datetime
  | integer
  deriving DecidableEq, Repr

/-- `_KEY_TYPES`. -/
def DashboardListType.keyTypes : DashboardListType → List KeyKind
  | .servers => [.text, .uuid]
  | .incidents => [.datetime, .uuid]
  | .rules => [.text, .uuid]
  | .audit => [.datetime, .uuid]
  | .evidence => [.datetime, .uuid]
  | .incidentHistory => [.integer]
  | .incidentComments => [.datetime, .uuid]

/-- What `_encode_keys` appends for a key. -/
def encodeKey : KeyKind → CursorKey → Option JsonValue
  | .text, .text value => some (.str value)
  | .uuid, .uuid value => some (.str value.text)
  | .datetime, .datetime value => some (.str (utcText value))
  | .integer, .integer value => if 0 < value then some (.int value) else none
  | _, _ => none

/-- `_encode_keys`. -/
def encodeKeys : List KeyKind → List CursorKey → Option (List JsonValue)
  | [], [] => some []
  | kind :: kinds, key :: keys => do
      let value ← encodeKey kind key
      let values ← encodeKeys kinds keys
      return value :: values
  | _, _ => none

/-- `_parse_utc`. -/
def parseUtc (value : String) : Option Int :=
  if value.toList.getLast? = some 'Z' then
    match fromisoformat (value.toList.dropLast ++ "+00:00".toList) with
    | none => none
    | some parsed => if utcText parsed = value then some parsed else none
  else none

/-- What `_decode_keys` appends for a value. -/
def decodeKey : KeyKind → JsonValue → Option CursorKey
  | .integer, .int value => if 0 < value then some (.integer value) else none
  | .text, .str value => some (.text value)
  | .uuid, .str value => (parseCanonicalUuid value).map .uuid
  | .datetime, .str value => (parseUtc value).map .datetime
  | _, _ => none

/-- `_decode_keys`. -/
def decodeKeys : List KeyKind → List JsonValue → Option (List CursorKey)
  | [], [] => some []
  | kind :: kinds, value :: values => do
      let key ← decodeKey kind value
      let keys ← decodeKeys kinds values
      return key :: keys
  | _, _ => none

/-! ## Encoding -/

/-- The fields of a cursor. -/
def DashboardCursorContext.fields (context : DashboardCursorContext) (keys : List JsonValue) :
    List (String × JsonValue) :=
  [("filters", .obj context.filters), ("keys", .arr keys),
    ("list", .str context.listType.value), ("page_size", .int context.pageSize),
    ("search", ofOption context.search), ("sort", .str context.sort), ("v", .int 1)]

/-- The object that a cursor holds. -/
def DashboardCursorContext.payload (context : DashboardCursorContext) (keys : List JsonValue) :
    JsonValue :=
  .obj (context.fields keys)

/-- `json.dumps(...).encode("utf-8")` as URL-safe base64 without padding. -/
def cursorOf (payload : JsonValue) : String :=
  String.ofList (base64Encode (utf8 (canonicalValue payload)))

/-- `encode_dashboard_cursor`. -/
def encodeDashboardCursor (context : DashboardCursorContext) (keys : List CursorKey) :
    Except String String :=
  match context.validate with
  | some message => .error message
  | none =>
      match encodeKeys context.listType.keyTypes keys with
      | none => .error "invalid dashboard ordering keys"
      | some values => .ok (cursorOf (context.payload values))

/-! ## Decoding -/

/-- The bytes of a cursor that is canonical base64 and not too long. -/
def readBytes (value : String) : Option (List Nat) :=
  if value.toList.isEmpty || maxDashboardCursorLength < value.toList.length ||
      !value.toList.all base64Alphabet.contains then none
  else
    match base64Decode value.toList with
    | none => none
    | some raw => if base64Encode raw = value.toList then some raw else none

/-- The payload of a cursor that is canonical JSON. -/
def readPayload (value : String) : Option JsonValue :=
  match readBytes value with
  | none => none
  | some raw =>
      match (utf8Decode raw).bind loads with
      | none => none
      | some payload => if utf8 (canonicalValue payload) = raw then some payload else none

/-- `_FIELDS`. -/
def cursorFields : List String := ["filters", "keys", "list", "page_size", "search", "sort", "v"]

/-- `payload[name]`. -/
def field (payload : List (String × JsonValue)) (name : String) : JsonValue :=
  (payload.lookup name).getD .null

/-- `type(value) is int and value == n`. -/
def isInt (n : Int) : JsonValue → Bool
  | .int value => value = n
  | _ => false

/-- The filters of a payload, when `_validate_filters` accepts them. -/
def validFilters : JsonValue → Option (List (String × JsonValue))
  | .obj filters => if filters.all fun filter => isFilterValue filter.2 then some filters else none
  | _ => none

/-- The items of a list. -/
def listItems : JsonValue → Option (List JsonValue)
  | .arr items => some items
  | _ => none

/-- The members of an object. -/
def objectMembers : JsonValue → Option (List (String × JsonValue))
  | .obj members => some members
  | _ => none

/-- `set(payload) == _FIELDS`. -/
def hasCursorFields (members : List (String × JsonValue)) : Bool :=
  members.all (fun entry => cursorFields.contains entry.1) &&
    cursorFields.all ((members.map Prod.fst).contains ·)

/-- The fields that say where a cursor belongs, against the context. -/
def matchesContext (expected : DashboardCursorContext) (members : List (String × JsonValue)) : Bool :=
  isInt 1 (field members "v") && (field members "list").pyEq (.str expected.listType.value) &&
    isInt expected.pageSize (field members "page_size") &&
    (field members "sort").pyEq (.str expected.sort) &&
    (field members "search").pyEq (ofOption expected.search)

/-- The checks of a payload after it is read. -/
def decodePayload (expected : DashboardCursorContext) (members : List (String × JsonValue)) :
    Option (List CursorKey) :=
  if !(hasCursorFields members && matchesContext expected members) then none
  else
    match validFilters (field members "filters") with
    | none => none
    | some filters =>
        if !(JsonValue.obj filters).pyEq (.obj expected.filters) then none
        else (listItems (field members "keys")).bind (decodeKeys expected.listType.keyTypes)

/-- `decode_dashboard_cursor`. All of its own errors have one text. -/
def decodeDashboardCursor (value : String) (expected : DashboardCursorContext) :
    Except String (List CursorKey) :=
  match expected.validate with
  | some message => .error message
  | none =>
      match ((readPayload value).bind objectMembers).bind (decodePayload expected) with
      | none => .error "invalid dashboard cursor"
      | some keys => .ok keys

/-! ## Keys are read back -/

/-- The keys that a query returns: of the kind, positive versions, and instants that
a `datetime` holds. -/
def CursorKey.Fits : KeyKind → CursorKey → Prop
  | .text, .text _ => True
  | .uuid, .uuid _ => True
  | .datetime, .datetime instant => IsDatetime instant
  | .integer, .integer value => 0 < value
  | _, _ => False

theorem utcText_toList (instant : Int) : (utcText instant).toList = localText instant ++ ['Z'] := by
  have offset : (isoformat instant).length - 6 = (localText instant).length := by
    rw [← String.length_toList, isoformat_toList, List.length_append]
    exact Nat.add_sub_cancel _ 6
  rw [utcText, String.toList_append, String.toList_ofList, offset, isoformat_toList,
    List.take_left]
  rfl

/-- **The text of an instant is read back.** -/
theorem parseUtc_utcText {instant : Int} (holds : IsDatetime instant) :
    parseUtc (utcText instant) = some instant := by
  have whole := fromisoformat_isoformat holds
  rw [isoformat_toList] at whole
  rw [parseUtc, utcText_toList, List.getLast?_concat, if_pos rfl, List.dropLast_concat, whole]
  dsimp only
  rw [if_pos rfl]

theorem utcText_of_parseUtc {value : String} {instant : Int}
    (parsed : parseUtc value = some instant) : utcText instant = value := by
  rw [parseUtc] at parsed
  split at parsed
  · split at parsed
    · cases parsed
    · split at parsed
      next same =>
        cases parsed
        exact same
      next => cases parsed
  · cases parsed

/-- A value that a key is written as, and is read as the key. -/
theorem decodeKey_encodeKey {kind : KeyKind} {key : CursorKey} (fits : key.Fits kind) :
    ∃ value, encodeKey kind key = some value ∧ decodeKey kind value = some key ∧
      WellFormed value ∧ value.sorted = value := by
  cases kind with
  | text =>
      cases key with
      | text value => exact ⟨.str value, rfl, rfl, trivial, rfl⟩
      | integer value => exact fits.elim
      | uuid value => exact fits.elim
      | datetime value => exact fits.elim
  | uuid =>
      cases key with
      | text value => exact fits.elim
      | integer value => exact fits.elim
      | uuid value =>
          refine ⟨.str value.text, rfl, ?_, trivial, rfl⟩
          rw [decodeKey, Telegram.parseCanonicalUuid_text]
          rfl
      | datetime value => exact fits.elim
  | datetime =>
      cases key with
      | text value => exact fits.elim
      | integer value => exact fits.elim
      | uuid value => exact fits.elim
      | datetime value =>
          refine ⟨.str (utcText value), rfl, ?_, trivial, rfl⟩
          rw [decodeKey, parseUtc_utcText fits]
          rfl
  | integer =>
      cases key with
      | text value => exact fits.elim
      | integer value => exact ⟨.int value, if_pos fits, if_pos fits, trivial, rfl⟩
      | uuid value => exact fits.elim
      | datetime value => exact fits.elim

/-- **The keys of a row are written as values that are read as the keys.** -/
theorem decodeKeys_encodeKeys {kinds : List KeyKind} {keys : List CursorKey}
    (fits : List.Forall₂ (fun kind key => CursorKey.Fits kind key) kinds keys) :
    ∃ values, encodeKeys kinds keys = some values ∧ decodeKeys kinds values = some keys ∧
      WellFormedItems values ∧ sortedItems values = values := by
  induction fits with
  | nil => exact ⟨[], rfl, rfl, trivial, rfl⟩
  | cons fits _ ih =>
      obtain ⟨value, encoded, decoded, wellFormed, ordered⟩ := decodeKey_encodeKey fits
      obtain ⟨values, all_encoded, all_decoded, all_formed, all_ordered⟩ := ih
      refine ⟨value :: values, ?_, ?_, ⟨wellFormed, all_formed⟩, ?_⟩
      · rw [encodeKeys, encoded, all_encoded]
        rfl
      · rw [decodeKeys, decoded, all_decoded]
        rfl
      · rw [sortedItems, ordered, all_ordered]

/-- A value that is read as a key is the one that the key is written as. -/
theorem encodeKey_of_decodeKey {kind : KeyKind} {value : JsonValue} {key : CursorKey}
    (read : decodeKey kind value = some key) :
    encodeKey kind key = some value ∧ value.sorted = value := by
  unfold decodeKey at read
  split at read
  next number =>
    split at read
    next positive =>
      cases read
      exact ⟨if_pos positive, rfl⟩
    next => cases read
  next text =>
    cases read
    exact ⟨rfl, rfl⟩
  next text =>
    obtain ⟨id, found, rfl⟩ := Option.map_eq_some_iff.mp read
    rw [Telegram.text_of_parseCanonicalUuid found]
    exact ⟨rfl, rfl⟩
  next text =>
    obtain ⟨instant, found, rfl⟩ := Option.map_eq_some_iff.mp read
    rw [← utcText_of_parseUtc found]
    exact ⟨rfl, rfl⟩
  next => cases read

/-- **Values that are read as keys are the ones that the keys are written as.** -/
theorem encodeKeys_of_decodeKeys {kinds : List KeyKind} {values : List JsonValue}
    {keys : List CursorKey} (read : decodeKeys kinds values = some keys) :
    encodeKeys kinds keys = some values ∧ sortedItems values = values := by
  induction kinds generalizing values keys with
  | nil =>
      cases values with
      | nil =>
          cases read
          exact ⟨rfl, rfl⟩
      | cons value values => cases read
  | cons kind kinds ih =>
      cases values with
      | nil => cases read
      | cons value values =>
          rw [decodeKeys] at read
          obtain ⟨key, first, more⟩ := Option.bind_eq_some_iff.mp read
          obtain ⟨others, rest, made⟩ := Option.bind_eq_some_iff.mp more
          cases made
          obtain ⟨encoded, ordered⟩ := encodeKey_of_decodeKey first
          obtain ⟨all_encoded, all_ordered⟩ := ih rest
          constructor
          · rw [encodeKeys, encoded, all_encoded]
            rfl
          · rw [sortedItems, ordered, all_ordered]

/-! ## Payloads are read back -/

/-- **A cursor is read as its payload, in order, while it is not too long.** -/
theorem readPayload_cursorOf {members : List (String × JsonValue)}
    (wellFormed : WellFormed (.obj members)) :
    readPayload (cursorOf (.obj members)) =
      if jsonSize (.obj members) ≤ 768 then some (JsonValue.obj members).sorted else none := by
  have count : (utf8 (canonicalValue (.obj members))).length = jsonSize (.obj members) :=
    textSize_canonicalValue _ wellFormed
  have positive : 2 ≤ jsonSize (.obj members) := by
    rw [jsonSize]
    omega
  have length : (base64Encode (utf8 (canonicalValue (.obj members)))).length =
      (4 * jsonSize (.obj members) + 2) / 3 := by
    rw [length_base64Encode, count]
  have nonempty : (base64Encode (utf8 (canonicalValue (.obj members)))).isEmpty = false := by
    rw [List.isEmpty_eq_false_iff, ← List.length_pos_iff, length]
    omega
  have alphabet : (base64Encode (utf8 (canonicalValue (.obj members)))).all
      base64Alphabet.contains = true := by
    refine List.all_eq_true.mpr fun c member => ?_
    exact List.contains_iff_mem.mpr (mem_base64Encode member)
  rw [readPayload, readBytes, cursorOf, String.toList_ofList, nonempty, alphabet, length,
    base64Decode_base64Encode (utf8_small _)]
  dsimp only
  rw [if_pos rfl]
  by_cases fits : jsonSize (.obj members) ≤ 768
  · have short : ¬ maxDashboardCursorLength < (4 * jsonSize (.obj members) + 2) / 3 := by
      rw [maxDashboardCursorLength]
      omega
    rw [decide_eq_false short, if_neg (by decide), if_pos fits]
    dsimp only
    rw [utf8Decode_utf8, Option.bind_some, loads_canonical wellFormed]
    dsimp only
    rw [canonicalValue_sorted, if_pos rfl]
  · have long : maxDashboardCursorLength < (4 * jsonSize (.obj members) + 2) / 3 := by
      rw [maxDashboardCursorLength]
      omega
    rw [decide_eq_true long, if_pos (by decide), if_neg fits]

/-- **A text that is read as a payload is the cursor of the payload**, whose keys are
in order. -/
theorem cursorOf_of_readPayload {value : String} {payload : JsonValue}
    (read : readPayload value = some payload) :
    cursorOf payload = value ∧ WellFormed payload ∧ payload.sorted = payload := by
  rw [readPayload] at read
  split at read
  · cases read
  next raw bytes =>
    split at read
    · cases read
    next found decoded =>
      split at read
      next canonical =>
        cases read
        obtain ⟨chars, characters, loaded⟩ := Option.bind_eq_some_iff.mp decoded
        rw [← canonical, utf8Decode_utf8] at characters
        cases characters
        refine ⟨?_, loads_wellFormed loaded, sorted_of_loads loaded rfl⟩
        rw [readBytes] at bytes
        split at bytes
        · cases bytes
        · split at bytes
          · cases bytes
          · split at bytes
            next again =>
              cases bytes
              rw [cursorOf, canonical, again, String.ofList_toList]
            next => cases bytes
      next => cases read

/-! ## Filters -/

/-- A truth value. -/
def isBool : JsonValue → Bool
  | .bool _ => true
  | _ => false

/-- Under no key one mapping has a truth value and the other has none. -/
def SameKinds (left right : List (String × JsonValue)) : Prop :=
  ∀ key value other, (key, value) ∈ left → (key, other) ∈ right → isBool value = isBool other

/-- The filters of a context in the order of their keys. -/
def DashboardCursorContext.orderedFilters (context : DashboardCursorContext) :
    List (String × JsonValue) :=
  context.filters.insertionSort memberOrder

/-- A text. -/
def isText : JsonValue → Bool
  | .str _ => true
  | _ => false

theorem isFilterValue_arr (items : List JsonValue) :
    isFilterValue (.arr items) = items.all isText := by
  rw [isFilterValue]
  rfl

theorem eq_str_of_isText {value : JsonValue} (text : isText value = true) :
    ∃ content, value = .str content := by
  cases value with
  | str content => exact ⟨content, rfl⟩
  | _ => cases text

/-- Lists of texts are equal when they are the same. -/
theorem pyEqItems_texts {left right : List JsonValue} (left_texts : left.all isText = true)
    (right_texts : right.all isText = true) : pyEqItems left right = true ↔ left = right := by
  induction left generalizing right with
  | nil =>
      cases right with
      | nil => simp [pyEqItems]
      | cons second right => simp [pyEqItems]
  | cons first left ih =>
      cases right with
      | nil => simp [pyEqItems]
      | cons second right =>
          rw [List.all_cons, Bool.and_eq_true] at left_texts right_texts
          obtain ⟨content, rfl⟩ := eq_str_of_isText left_texts.1
          obtain ⟨other, rfl⟩ := eq_str_of_isText right_texts.1
          rw [pyEqItems, Bool.and_eq_true, ih left_texts.2 right_texts.2, List.cons.injEq, pyEq,
            beq_iff_eq, JsonValue.str.injEq]

/-- **Equal filter values** of one kind are the same. -/
theorem pyEq_filter {left right : JsonValue} (left_valid : isFilterValue left = true)
    (right_valid : isFilterValue right = true) (kinds : isBool left = isBool right) :
    left.pyEq right = true ↔ left = right := by
  cases left with
  | null => cases right <;> simp [pyEq]
  | bool value =>
      cases right with
      | bool other => cases value <;> cases other <;> simp [pyEq, number?]
      | _ => cases kinds
  | int value =>
      cases right with
      | int other =>
          rw [pyEq, number?, beq_iff_eq, Option.some.injEq, Int.cast_inj, JsonValue.int.injEq,
            eq_comm]
      | bool other => cases kinds
      | _ => simp_all [pyEq, number?, isFilterValue]
  | float value => cases left_valid
  | str text => cases right <;> simp [pyEq]
  | arr items =>
      cases right with
      | arr others =>
          rw [isFilterValue_arr] at left_valid right_valid
          rw [pyEq, pyEqItems_texts left_valid right_valid, JsonValue.arr.injEq]
      | _ => simp [pyEq]
  | obj members => cases left_valid

theorem sortedItems_texts {items : List JsonValue} (texts : items.all isText = true) :
    sortedItems items = items ∧ WellFormedItems items := by
  induction items with
  | nil => exact ⟨rfl, trivial⟩
  | cons item rest ih =>
      rw [List.all_cons, Bool.and_eq_true] at texts
      obtain ⟨content, rfl⟩ := eq_str_of_isText texts.1
      obtain ⟨ordered, wellFormed⟩ := ih texts.2
      exact ⟨by rw [sortedItems, ordered, sorted], trivial, wellFormed⟩

/-- A filter value has no keys to sort. -/
theorem sorted_filter {value : JsonValue} (valid : isFilterValue value = true) :
    value.sorted = value ∧ WellFormed value := by
  cases value with
  | null => exact ⟨rfl, trivial⟩
  | bool value => exact ⟨rfl, trivial⟩
  | int value => exact ⟨rfl, trivial⟩
  | float value => cases valid
  | str text => exact ⟨rfl, trivial⟩
  | arr items =>
      rw [isFilterValue_arr] at valid
      obtain ⟨ordered, wellFormed⟩ := sortedItems_texts valid
      exact ⟨by rw [sorted, ordered], wellFormed⟩
  | obj members => cases valid

theorem sortedMembers_filters {filters : List (String × JsonValue)}
    (valid : (filters.all fun filter => isFilterValue filter.2) = true) :
    sortedMembers filters = filters ∧ WellFormedMembers filters := by
  induction filters with
  | nil => exact ⟨rfl, trivial⟩
  | cons filter rest ih =>
      obtain ⟨key, value⟩ := filter
      rw [List.all_cons, Bool.and_eq_true] at valid
      obtain ⟨here, formed⟩ := sorted_filter valid.1
      obtain ⟨later, all_formed⟩ := ih valid.2
      exact ⟨by rw [sortedMembers, here, later], formed, all_formed⟩

/-- **Equal filters of the same kinds** are the same up to the order of the keys. -/
theorem filters_perm {left right : List (String × JsonValue)}
    (left_valid : (left.all fun filter => isFilterValue filter.2) = true)
    (right_valid : (right.all fun filter => isFilterValue filter.2) = true)
    (left_different : (left.map Prod.fst).Nodup)
    (equal : (JsonValue.obj left).pyEq (.obj right) = true) (kinds : SameKinds left right) :
    left.Perm right := by
  rw [pyEq, Bool.and_eq_true, beq_iff_eq, pyEqMembers_iff] at equal
  obtain ⟨length, equal⟩ := equal
  have inside : left ⊆ right := by
    intro entry member
    obtain ⟨other, found, same⟩ := equal entry member
    have other_member := mem_of_lookup found
    have kind := kinds entry.1 entry.2 other member other_member
    have here := List.all_eq_true.mp left_valid entry member
    have there : isFilterValue other = true := List.all_eq_true.mp right_valid _ other_member
    rw [pyEq_filter here there kind] at same
    rw [← same] at other_member
    exact other_member
  exact (List.subperm_of_subset (List.Nodup.of_map Prod.fst left_different) inside).perm_of_length_le
    (Nat.le_of_eq length.symm)

/-- A mapping is equal to itself in any order. -/
theorem pyEq_filters_self {left right : List (String × JsonValue)} (reorder : left.Perm right)
    (valid : (left.all fun filter => isFilterValue filter.2) = true)
    (different : (right.map Prod.fst).Nodup) :
    (JsonValue.obj left).pyEq (.obj right) = true := by
  rw [pyEq, Bool.and_eq_true, beq_iff_eq, pyEqMembers_iff]
  refine ⟨reorder.length_eq, fun entry member => ?_⟩
  have here := List.all_eq_true.mp valid entry member
  exact ⟨entry.2, lookup_of_mem different (reorder.mem_iff.mp member),
    (pyEq_filter here here rfl).mpr rfl⟩

/-! ## What the decoder accepts -/

theorem eq_int_of_isInt {value : JsonValue} {n : Int} (same : isInt n value = true) :
    value = .int n := by
  cases value with
  | int i => rw [of_decide_eq_true same]
  | _ => cases same

theorem eq_str_of_pyEq {value : JsonValue} {text : String} (same : value.pyEq (.str text) = true) :
    value = .str text := by
  cases value with
  | str content => rw [beq_iff_eq.mp same]
  | _ => simp [pyEq, number?] at same

theorem eq_ofOption_of_pyEq {value : JsonValue} {text : Option String}
    (same : value.pyEq (ofOption text) = true) : value = ofOption text := by
  cases text with
  | none =>
      cases value with
      | null => rfl
      | _ => simp [pyEq, ofOption, number?] at same
  | some content => exact eq_str_of_pyEq same

/-- **A payload of the context with equal filters is accepted.** -/
theorem decodePayload_payload {expected : DashboardCursorContext}
    {filters : List (String × JsonValue)} {values : List JsonValue} {keys : List CursorKey}
    (valid : (filters.all fun filter => isFilterValue filter.2) = true)
    (equal : (JsonValue.obj filters).pyEq (.obj expected.filters) = true)
    (read : decodeKeys expected.listType.keyTypes values = some keys) :
    (objectMembers ({ expected with filters := filters }.payload values)).bind
      (decodePayload expected) = some keys := by
  have search : (ofOption expected.search).pyEq (ofOption expected.search) = true := by
    cases expected.search with
    | none => rfl
    | some text => exact beq_self_eq_true text
  have list : (JsonValue.str expected.listType.value).pyEq (.str expected.listType.value) = true :=
    beq_self_eq_true _
  have sort : (JsonValue.str expected.sort).pyEq (.str expected.sort) = true := beq_self_eq_true _
  have size : isInt expected.pageSize (.int expected.pageSize) = true := decide_eq_true rfl
  have checks : (hasCursorFields ({ expected with filters := filters }.fields values) &&
      matchesContext expected ({ expected with filters := filters }.fields values)) = true := by
    rw [Bool.and_eq_true]
    constructor
    · rfl
    · change (isInt 1 (.int 1) && (JsonValue.str expected.listType.value).pyEq
        (.str expected.listType.value) && isInt expected.pageSize (.int expected.pageSize) &&
        (JsonValue.str expected.sort).pyEq (.str expected.sort) &&
        (ofOption expected.search).pyEq (ofOption expected.search)) = true
      rw [list, size, sort, search]
      rfl
  rw [DashboardCursorContext.payload, objectMembers, Option.bind_some, decodePayload, checks]
  change (match validFilters (.obj filters) with
    | none => none
    | some filters =>
        if !(JsonValue.obj filters).pyEq (.obj expected.filters) then none
        else (listItems (.arr values)).bind (decodeKeys expected.listType.keyTypes)) = _
  rw [validFilters, if_pos valid]
  dsimp only
  rw [equal, listItems, Option.bind_some, read]
  rfl

/-- The keys of a canonical payload with the fields of a cursor are the fields. -/
theorem keys_eq_cursorFields {members : List (String × JsonValue)}
    (ascending : (members.map Prod.fst).Pairwise (· < ·)) (fields : hasCursorFields members = true) :
    members.map Prod.fst = cursorFields := by
  rw [hasCursorFields, Bool.and_eq_true, List.all_eq_true, List.all_eq_true] at fields
  obtain ⟨only, every⟩ := fields
  have listed : cursorFields.Pairwise (· < ·) := by decide
  have different : ∀ {keys : List String}, keys.Pairwise (· < ·) → keys.Nodup := fun ordered =>
    ordered.imp fun less => String.ne_of_lt less
  have same : ∀ key, key ∈ members.map Prod.fst ↔ key ∈ cursorFields := by
    intro key
    constructor
    · intro member
      obtain ⟨entry, here, rfl⟩ := List.mem_map.mp member
      exact List.contains_iff_mem.mp (only entry here)
    · intro member
      exact List.contains_iff_mem.mp (every key member)
  have reorder : (members.map Prod.fst).Perm cursorFields :=
    (List.perm_ext_iff_of_nodup (different ascending) (different listed)).mpr same
  refine reorder.eq_of_pairwise ?_ ascending listed
  intro first second _ _ less greater
  exact absurd (String.lt_trans less greater) (String.lt_irrefl _)

/-- **What is accepted** is a payload of the context but for its filters, which are
equal to those of the context, and its keys are the ones that are returned. -/
theorem payload_of_decodePayload {expected : DashboardCursorContext}
    {members : List (String × JsonValue)} {keys : List CursorKey}
    (ascending : (members.map Prod.fst).Pairwise (· < ·))
    (accepted : decodePayload expected members = some keys) :
    ∃ filters values, JsonValue.obj members = { expected with filters := filters }.payload values ∧
      (filters.all fun filter => isFilterValue filter.2) = true ∧
      (JsonValue.obj filters).pyEq (.obj expected.filters) = true ∧
      encodeKeys expected.listType.keyTypes keys = some values ∧ sortedItems values = values := by
  rw [decodePayload] at accepted
  split at accepted
  · cases accepted
  next checks =>
    rw [Bool.not_eq_true', Bool.not_eq_false, Bool.and_eq_true] at checks
    obtain ⟨fields, places⟩ := checks
    have shape := keys_eq_cursorFields ascending fields
    simp only [cursorFields, List.map_eq_cons_iff, List.map_eq_nil_iff] at shape
    obtain ⟨⟨_, filters⟩, _, rfl, rfl, ⟨_, keysValue⟩, _, rfl, rfl, ⟨_, list⟩, _, rfl, rfl,
      ⟨_, size⟩, _, rfl, rfl, ⟨_, search⟩, _, rfl, rfl, ⟨_, sort⟩, _, rfl, rfl, ⟨_, version⟩, _,
      rfl, rfl, rfl⟩ := shape
    change (isInt 1 version && list.pyEq (.str expected.listType.value) &&
      isInt expected.pageSize size && sort.pyEq (.str expected.sort) &&
      search.pyEq (ofOption expected.search)) = true at places
    simp only [Bool.and_eq_true] at places
    obtain ⟨⟨⟨⟨version_one, list_same⟩, size_same⟩, sort_same⟩, search_same⟩ := places
    obtain rfl := eq_int_of_isInt version_one
    obtain rfl := eq_str_of_pyEq list_same
    obtain rfl := eq_int_of_isInt size_same
    obtain rfl := eq_str_of_pyEq sort_same
    obtain rfl := eq_ofOption_of_pyEq search_same
    change (match validFilters filters with
      | none => none
      | some filters =>
          if !(JsonValue.obj filters).pyEq (.obj expected.filters) then none
          else (listItems keysValue).bind (decodeKeys expected.listType.keyTypes)) = _ at accepted
    cases filters with
    | obj found =>
        rw [validFilters] at accepted
        split at accepted
        · cases accepted
        next filters valid =>
          split at valid
          next all_valid =>
            cases valid
            split at accepted
            · cases accepted
            next equal =>
              rw [Bool.not_eq_true', Bool.not_eq_false] at equal
              obtain ⟨values, items, read⟩ := Option.bind_eq_some_iff.mp accepted
              cases keysValue with
              | arr others =>
                  cases items
                  obtain ⟨encoded, ordered⟩ := encodeKeys_of_decodeKeys read
                  exact ⟨found, values, rfl, all_valid, equal, encoded, ordered⟩
              | _ => cases items
          next => cases valid
    | _ => cases accepted

/-! ## Sizes and orders of payloads -/

/-- The value that a key is written as. -/
def CursorKey.value : CursorKey → JsonValue
  | .text value => .str value
  | .integer value => .int value
  | .uuid value => .str value.text
  | .datetime value => .str (utcText value)

theorem encodeKey_eq_value {kind : KeyKind} {key : CursorKey} {value : JsonValue}
    (encoded : encodeKey kind key = some value) : key.value = value := by
  unfold encodeKey at encoded
  split at encoded
  · exact Option.some.inj encoded
  · exact Option.some.inj encoded
  · exact Option.some.inj encoded
  · split at encoded
    · exact Option.some.inj encoded
    · cases encoded
  · cases encoded

theorem encodeKeys_eq_values {kinds : List KeyKind} {keys : List CursorKey}
    {values : List JsonValue} (encoded : encodeKeys kinds keys = some values) :
    keys.map CursorKey.value = values := by
  induction kinds generalizing keys values with
  | nil =>
      cases keys with
      | nil =>
          cases encoded
          rfl
      | cons key keys => cases encoded
  | cons kind kinds ih =>
      cases keys with
      | nil => cases encoded
      | cons key keys =>
          rw [encodeKeys] at encoded
          obtain ⟨value, first, more⟩ := Option.bind_eq_some_iff.mp encoded
          obtain ⟨others, rest, made⟩ := Option.bind_eq_some_iff.mp more
          cases made
          rw [List.map_cons, encodeKey_eq_value first, ih rest]

theorem sorted_ofOption (text : Option String) :
    (ofOption text).sorted = ofOption text ∧ WellFormed (ofOption text) := by
  cases text with
  | none => exact ⟨rfl, trivial⟩
  | some content => exact ⟨rfl, trivial⟩

theorem wellFormed_payload {context : DashboardCursorContext} {values : List JsonValue}
    (valid : (context.filters.all fun filter => isFilterValue filter.2) = true)
    (different : (context.filters.map Prod.fst).Nodup) (formed : WellFormedItems values) :
    WellFormed (context.payload values) := by
  have names : cursorFields.Nodup := by decide
  exact ⟨names, ⟨different, (sortedMembers_filters valid).2⟩, formed, trivial, trivial,
    (sorted_ofOption context.search).2, trivial, trivial, trivial⟩

/-- Only the filters of a payload may be out of order. -/
theorem sorted_payload {context : DashboardCursorContext} {values : List JsonValue}
    (valid : (context.filters.all fun filter => isFilterValue filter.2) = true)
    (ordered : sortedItems values = values) :
    (context.payload values).sorted =
      { context with filters := context.orderedFilters }.payload values := by
  have names : cursorFields.Pairwise (· ≤ ·) := by decide
  have filters : sortedMembers (context.fields values) =
      { context with filters := context.orderedFilters }.fields values := by
    simp only [DashboardCursorContext.fields, sortedMembers, sorted, (sortedMembers_filters valid).1,
      ordered, (sorted_ofOption context.search).1]
    rfl
  have in_order : ({ context with filters := context.orderedFilters }.fields values).Pairwise
      memberOrder := by
    have keys : (({ context with filters := context.orderedFilters }.fields values).map
        Prod.fst).Pairwise (· ≤ ·) := names
    rw [List.pairwise_map] at keys
    exact keys
  rw [DashboardCursorContext.payload, sorted, filters, List.Pairwise.insertionSort_eq in_order]
  rfl

/-! ## Cursors are read back -/

theorem filters_valid {context : DashboardCursorContext} (valid : context.validate = none) :
    (context.filters.all fun filter => isFilterValue filter.2) = true := by
  rw [DashboardCursorContext.validate] at valid
  split at valid
  · cases valid
  split at valid
  · cases valid
  split at valid
  · cases valid
  next allowed => simpa using allowed

/-- **A cursor of a context with equal filters is read back** while its payload takes
at most 768 bytes. -/
theorem decode_cursorOf (context expected : DashboardCursorContext)
    (places : { expected with filters := context.filters } = context)
    (supported : expected.validate = none)
    (valid : (context.filters.all fun filter => isFilterValue filter.2) = true)
    (different : (context.filters.map Prod.fst).Nodup)
    (equal : (JsonValue.obj context.orderedFilters).pyEq (.obj expected.filters) = true)
    (keys : List CursorKey)
    (fits : List.Forall₂ (fun kind key => CursorKey.Fits kind key) expected.listType.keyTypes keys) :
    encodeKeys expected.listType.keyTypes keys = some (keys.map CursorKey.value) ∧
      decodeDashboardCursor (cursorOf (context.payload (keys.map CursorKey.value))) expected =
        if jsonSize (context.payload (keys.map CursorKey.value)) ≤ 768 then .ok keys
        else .error "invalid dashboard cursor" := by
  obtain ⟨values, encoded, decoded, formed, ordered⟩ := decodeKeys_encodeKeys fits
  obtain rfl := encodeKeys_eq_values encoded
  refine ⟨encoded, ?_⟩
  have reorder := List.perm_insertionSort memberOrder context.filters
  have sorted_valid : (context.orderedFilters.all fun filter => isFilterValue filter.2) = true := by
    rw [DashboardCursorContext.orderedFilters, reorder.all_eq, valid]
  have read := readPayload_cursorOf (wellFormed_payload valid different formed)
  have in_order := sorted_payload valid ordered
  have accepted := decodePayload_payload sorted_valid equal decoded
  have same : { expected with filters := context.orderedFilters } =
      { context with filters := context.orderedFilters } :=
    congrArg (fun other => { other with filters := context.orderedFilters }) places
  rw [same, ← in_order] at accepted
  rw [decodeDashboardCursor, supported]
  dsimp only
  rw [DashboardCursorContext.payload] at accepted ⊢
  rw [read]
  by_cases small : jsonSize (.obj (context.fields (keys.map CursorKey.value))) ≤ 768
  · rw [if_pos small, if_pos small, Option.bind_some, accepted]
  · rw [if_neg small, if_neg small, Option.bind_none, Option.bind_none]

/-- **Every cursor that fits is read back**: the cursor of a row decodes, in the
context that it was made in, to the keys of the row exactly when its payload takes at
most 768 bytes. -/
theorem dashboard_cursor_read_back {context : DashboardCursorContext}
    (mapping : (context.filters.map Prod.fst).Nodup) (supported : context.validate = none)
    {keys : List CursorKey}
    (fits : List.Forall₂ (fun kind key => CursorKey.Fits kind key) context.listType.keyTypes keys) :
    (∃ cursor, encodeDashboardCursor context keys = .ok cursor ∧
        decodeDashboardCursor cursor context = .ok keys) ↔
      jsonSize (context.payload (keys.map CursorKey.value)) ≤ 768 := by
  have valid := filters_valid supported
  have reorder := List.perm_insertionSort memberOrder context.filters
  have sorted_valid : (context.orderedFilters.all fun filter => isFilterValue filter.2) = true := by
    rw [DashboardCursorContext.orderedFilters, reorder.all_eq, valid]
  obtain ⟨encoded, decoded⟩ := decode_cursorOf context context rfl supported valid mapping
    (pyEq_filters_self reorder sorted_valid mapping) keys fits
  have made : encodeDashboardCursor context keys =
      .ok (cursorOf (context.payload (keys.map CursorKey.value))) := by
    rw [encodeDashboardCursor, supported]
    dsimp only
    rw [encoded]
  generalize jsonSize (context.payload (keys.map CursorKey.value)) = size at decoded ⊢
  generalize cursorOf (context.payload (keys.map CursorKey.value)) = cursor at decoded made
  constructor
  · rintro ⟨value, encodes, decodes⟩
    rw [made] at encodes
    obtain rfl := Except.ok.inj encodes
    by_contra large
    rw [decoded, if_neg large] at decodes
    cases decodes
  · intro small
    rw [if_pos small] at decoded
    exact ⟨cursor, made, decoded⟩

/-- The list of servers without filters and with a search. -/
def serverSearch (search : Option String) : DashboardCursorContext where
  listType := .servers
  filters := [("id", .null), ("state", .str "all")]
  search := search
  sort := "name_asc"
  pageSize := 25

theorem dashboard_cursor_read_back_short :
    (∃ cursor, encodeDashboardCursor (serverSearch (some "w")) [.text "web-1", .uuid 7] = .ok cursor ∧
      decodeDashboardCursor cursor (serverSearch (some "w")) = .ok [.text "web-1", .uuid 7]) ↔
    jsonSize ((serverSearch (some "w")).payload
      ([CursorKey.text "web-1", .uuid 7].map CursorKey.value)) ≤ 768 :=
  dashboard_cursor_read_back (by decide) (by decide) (.cons trivial (.cons trivial .nil))

theorem literalSize_replicate (n : Nat) (c : Char) :
    literalSize (String.ofList (List.replicate n c)) = 2 + n * charSize c := by
  rw [literalSize, String.toList_ofList, List.map_replicate, List.sum_replicate_nat]

/-- A name of 100 characters of the supplementary planes, and a search for it. -/
def longName : String := String.ofList (List.replicate 100 (Char.ofNat 0x20000))

theorem charSize_supplementary : charSize (Char.ofNat 0x20000) = 4 := by decide

theorem literalSize_longName : literalSize longName = 2 + 100 * 4 := by
  have size := literalSize_replicate 100 (Char.ofNat 0x20000)
  rw [charSize_supplementary] at size
  exact size

/-- The list of servers with any search is one of the routes' contexts. -/
theorem serverSearch_supported (search : Option String) : (serverSearch search).validate = none :=
  rfl

/-- A search and a name of more than 384 bytes each are too long together. -/
theorem long_serverSearch (text : String) (long : 384 < literalSize text) :
    ¬ jsonSize ((serverSearch (some text)).payload
      ([CursorKey.text text, .uuid 7].map CursorKey.value)) ≤ 768 := by
  have search : jsonSize (ofOption (some text)) = literalSize text := rfl
  simp only [DashboardCursorContext.payload, DashboardCursorContext.fields, serverSearch, jsonSize,
    membersSize, List.map_cons, CursorKey.value, itemsSize, search]
  omega

theorem long_cursor_not_read_back :
    ∃ cursor, encodeDashboardCursor (serverSearch (some longName)) [.text longName, .uuid 7] =
        .ok cursor ∧
      decodeDashboardCursor cursor (serverSearch (some longName)) =
        .error "invalid dashboard cursor" := by
  have supported := serverSearch_supported (some longName)
  have large := long_serverSearch longName (by rw [literalSize_longName]; decide)
  obtain ⟨encoded, decoded⟩ := decode_cursorOf (serverSearch (some longName))
    (serverSearch (some longName)) rfl supported rfl (by decide) rfl
    [.text longName, .uuid 7] (.cons trivial (.cons trivial .nil))
  rw [if_neg large] at decoded
  refine ⟨_, ?_, decoded⟩
  rw [encodeDashboardCursor, supported]
  dsimp only
  rw [encoded]

/-! ## Accepted cursors -/

/-- The filters in the JSON object that a text holds. -/
def writtenFilters (value : String) : List (String × JsonValue) :=
  match (readPayload value).bind objectMembers with
  | none => []
  | some members => (objectMembers (field members "filters")).getD []

/-- The filters that are written in a cursor are those of its context, in order. -/
theorem writtenFilters_cursorOf (context : DashboardCursorContext) (values : List JsonValue)
    (valid : (context.filters.all fun filter => isFilterValue filter.2) = true)
    (different : (context.filters.map Prod.fst).Nodup) (formed : WellFormedItems values)
    (ordered : sortedItems values = values) (small : jsonSize (context.payload values) ≤ 768) :
    writtenFilters (cursorOf (context.payload values)) = context.orderedFilters := by
  have read := readPayload_cursorOf (wellFormed_payload valid different formed)
  have in_order := sorted_payload valid ordered
  rw [DashboardCursorContext.payload] at small in_order ⊢
  rw [writtenFilters, read, if_pos small, in_order]
  rfl

/-- **An accepted text** is the cursor of a payload of the context, but for the
filters that are written in it. -/
theorem cursorOf_of_decode {value : String} {expected : DashboardCursorContext}
    {keys : List CursorKey} (accepted : decodeDashboardCursor value expected = .ok keys) :
    ∃ values, expected.validate = none ∧
      encodeKeys expected.listType.keyTypes keys = some values ∧ sortedItems values = values ∧
      value = cursorOf ({ expected with filters := writtenFilters value }.payload values) ∧
      WellFormed ({ expected with filters := writtenFilters value }.payload values) ∧
      ({ expected with filters := writtenFilters value }.payload values).sorted =
        { expected with filters := writtenFilters value }.payload values ∧
      ((writtenFilters value).all fun filter => isFilterValue filter.2) = true ∧
      ((writtenFilters value).map Prod.fst).Pairwise (· < ·) ∧
      (JsonValue.obj (writtenFilters value)).pyEq (.obj expected.filters) = true := by
  rw [decodeDashboardCursor] at accepted
  split at accepted
  · cases accepted
  next supported =>
    split at accepted
    · cases accepted
    next found decoded =>
      cases accepted
      obtain ⟨members, object, checked⟩ := Option.bind_eq_some_iff.mp decoded
      obtain ⟨payload, read, shape⟩ := Option.bind_eq_some_iff.mp object
      obtain ⟨text, formed, ordered⟩ := cursorOf_of_readPayload read
      have canonical := canonical_sorted payload formed
      rw [ordered] at canonical
      cases payload with
      | obj others =>
          cases shape
          obtain ⟨filters, values, same, valid, equal, encoded, in_order⟩ :=
            payload_of_decodePayload canonical.1 checked
          have written : writtenFilters value = filters := by
            rw [writtenFilters, object]
            obtain rfl := JsonValue.obj.inj same
            rfl
          rw [same] at text formed ordered canonical
          rw [written]
          refine ⟨values, supported, encoded, in_order, text.symm, formed, ordered, valid, ?_, equal⟩
          exact canonical.2.1.1
      | _ => cases shape

theorem canonicalValue_eq_of_cursorOf {left right : JsonValue} (same : cursorOf left = cursorOf right) :
    canonicalValue left = canonicalValue right := by
  have bytes := congrArg (fun text => base64Decode (String.toList text)) same
  simp only [cursorOf, String.toList_ofList, base64Decode_base64Encode (utf8_small _),
    Option.some.injEq] at bytes
  exact utf8_inj bytes

/-- Mappings with ascending keys and the same entries are the same. -/
theorem eq_of_perm_of_ascending {left right : List (String × JsonValue)} (reorder : left.Perm right)
    (left_ascending : (left.map Prod.fst).Pairwise (· < ·))
    (right_ascending : (right.map Prod.fst).Pairwise (· < ·)) : left = right := by
  rw [List.pairwise_map] at left_ascending right_ascending
  refine reorder.eq_of_pairwise ?_ left_ascending right_ascending
  intro first second _ _ less greater
  exact absurd (String.lt_trans less greater) (String.lt_irrefl _)

/-- **The encoder gives an accepted text back** exactly when its filters are of the
kinds of the context. -/
theorem encode_eq_iff_sameKinds {context : DashboardCursorContext}
    (mapping : (context.filters.map Prod.fst).Nodup) {value : String} {keys : List CursorKey}
    (accepted : decodeDashboardCursor value context = .ok keys) :
    encodeDashboardCursor context keys = .ok value ↔
      SameKinds (writtenFilters value) context.filters := by
  obtain ⟨values, supported, encoded, ordered, text, formed, written_in_order, written_valid,
    ascending, equal⟩ := cursorOf_of_decode accepted
  have valid := filters_valid supported
  have different := nodup_of_ascending ascending
  have sorted_ascending := ascending_insertionSort mapping
  have reorder := List.perm_insertionSort memberOrder context.filters
  have made : encodeDashboardCursor context keys = .ok (cursorOf (context.payload values)) := by
    rw [encodeDashboardCursor, supported]
    dsimp only
    rw [encoded]
  have in_order := sorted_payload valid ordered
  have context_formed : WellFormed (context.payload values) :=
    wellFormed_payload valid mapping formed.2.2.1
  constructor
  · intro same
    rw [made] at same
    have texts := canonicalValue_eq_of_cursorOf ((Except.ok.inj same).trans text)
    rw [canonicalValue_eq_iff context_formed formed, in_order, written_in_order] at texts
    simp only [DashboardCursorContext.payload, DashboardCursorContext.fields, JsonValue.obj.injEq,
      List.cons.injEq, Prod.mk.injEq, true_and, and_true] at texts
    intro key first second first_in second_in
    rw [← texts, DashboardCursorContext.orderedFilters, List.mem_insertionSort] at first_in
    have found := lookup_of_mem mapping first_in
    rw [lookup_of_mem mapping second_in] at found
    rw [Option.some.inj found]
  · intro kinds
    have perm := filters_perm written_valid valid different equal kinds
    have same : context.orderedFilters = writtenFilters value :=
      eq_of_perm_of_ascending (reorder.trans perm.symm) sorted_ascending ascending
    have texts : canonicalValue (context.payload values) =
        canonicalValue ({ context with filters := writtenFilters value }.payload values) := by
      rw [canonicalValue_eq_iff context_formed formed, in_order, written_in_order, same]
    rw [made, cursorOf, texts, ← cursorOf, ← text]

/-- A filter value that is neither a truth value nor equal to one. -/
def notTruth : JsonValue → Bool
  | .bool _ => false
  | .int value => value ≠ 0 && value ≠ 1
  | .float _ => false
  | _ => true

theorem isBool_of_pyEq {left right : JsonValue} (distinct : notTruth right = true)
    (equal : left.pyEq right = true) : isBool left = isBool right := by
  cases right with
  | bool value => cases distinct
  | int value =>
      cases left with
      | bool other =>
          simp only [notTruth, Bool.and_eq_true, decide_eq_true_eq] at distinct
          rw [pyEq, number?, beq_iff_eq, Option.some.injEq] at equal
          split at equal
          · exact absurd (Int.cast_eq_one.mp equal) distinct.2
          · exact absurd (Int.cast_eq_zero.mp equal) distinct.1
      | _ => rfl
  | float value => cases distinct
  | _ =>
      cases left with
      | bool other => simp [pyEq, number?] at equal
      | _ => rfl

/-- Without truth values, zeros and ones no kind can differ. -/
theorem sameKinds_of_notTruth {left right : List (String × JsonValue)}
    (different : (right.map Prod.fst).Nodup) (equal : (JsonValue.obj left).pyEq (.obj right) = true)
    (distinct : (right.all fun filter => notTruth filter.2) = true) : SameKinds left right := by
  rw [pyEq, Bool.and_eq_true, pyEqMembers_iff] at equal
  intro key value other left_in right_in
  obtain ⟨found, looked, same⟩ := equal.2 (key, value) left_in
  rw [lookup_of_mem different right_in] at looked
  obtain rfl := Option.some.inj looked
  exact isBool_of_pyEq (List.all_eq_true.mp distinct _ right_in) same

/-- Two cursors with one text have one list, search, sort and page size. -/
theorem payload_places {left right : DashboardCursorContext} {values others : List JsonValue}
    (left_formed : WellFormed (left.payload values)) (right_formed : WellFormed (right.payload others))
    (left_ordered : (left.payload values).sorted = left.payload values)
    (right_ordered : (right.payload others).sorted = right.payload others)
    (same : cursorOf (left.payload values) = cursorOf (right.payload others)) :
    left = right := by
  have texts := canonicalValue_eq_of_cursorOf same
  rw [canonicalValue_eq_iff left_formed right_formed, left_ordered, right_ordered] at texts
  simp only [DashboardCursorContext.payload, DashboardCursorContext.fields, JsonValue.obj.injEq,
    List.cons.injEq, Prod.mk.injEq, true_and, and_true, JsonValue.str.injEq, JsonValue.int.injEq,
    Int.natCast_inj] at texts
  obtain ⟨filters, _, list, size, search, sort⟩ := texts
  have lists : left.listType = right.listType := by
    have distinct : ∀ first second : DashboardListType, first.value = second.value →
        first = second := by
      intro first second
      cases first <;> cases second <;> decide
    exact distinct _ _ list
  have searches : left.search = right.search := by
    cases first : left.search with
    | none =>
        cases second : right.search with
        | none => rfl
        | some text =>
            rw [first, second] at search
            cases search
    | some text =>
        cases second : right.search with
        | none =>
            rw [first, second] at search
            cases search
        | some other =>
            rw [first, second] at search
            rw [JsonValue.str.inj search]
  obtain ⟨listType, leftFilters, leftSearch, leftSort, leftSize⟩ := left
  obtain ⟨otherList, rightFilters, rightSearch, rightSort, rightSize⟩ := right
  dsimp only at filters size sort lists searches
  rw [filters, size, sort, lists, searches]

/-- **The decoder accepts what the encoder writes, and texts with a truth value for a
zero or a one.** An accepted text is given back by the encoder exactly when its filters
are of the kinds of the context, always in a context without truth values, zeros and
ones; and two contexts in which one text is accepted and given back are the same. -/
theorem dashboard_cursor_canonical {context : DashboardCursorContext}
    (mapping : (context.filters.map Prod.fst).Nodup) {value : String} {keys : List CursorKey}
    (accepted : decodeDashboardCursor value context = .ok keys) :
    (encodeDashboardCursor context keys = .ok value ↔
        SameKinds (writtenFilters value) context.filters) ∧
      ((context.filters.all fun filter => notTruth filter.2) = true →
        encodeDashboardCursor context keys = .ok value) ∧
      ∀ (other : DashboardCursorContext) (otherKeys : List CursorKey),
        (other.filters.map Prod.fst).Nodup → decodeDashboardCursor value other = .ok otherKeys →
        other.listType = context.listType ∧ other.search = context.search ∧
          other.sort = context.sort ∧ other.pageSize = context.pageSize ∧
          (SameKinds (writtenFilters value) context.filters →
            SameKinds (writtenFilters value) other.filters →
            other.filters.Perm context.filters) := by
  have exact_when := encode_eq_iff_sameKinds mapping accepted
  obtain ⟨values, supported, _, _, text, formed, in_order, written_valid, ascending, equal⟩ :=
    cursorOf_of_decode accepted
  refine ⟨exact_when, ?_, ?_⟩
  · intro distinct
    exact exact_when.mpr (sameKinds_of_notTruth mapping equal distinct)
  · intro other otherKeys other_mapping other_accepted
    obtain ⟨others, other_supported, _, _, other_text, other_formed, other_in_order, _, _,
      other_equal⟩ := cursorOf_of_decode other_accepted
    have same := payload_places other_formed formed other_in_order in_order
      (other_text.symm.trans text)
    obtain ⟨lists, _, searches, sorts, sizes⟩ := DashboardCursorContext.mk.inj same
    refine ⟨lists, searches, sorts, sizes, ?_⟩
    intro kinds other_kinds
    have different := nodup_of_ascending ascending
    have here := filters_perm written_valid (filters_valid supported) different equal kinds
    have there := filters_perm written_valid (filters_valid other_supported) different other_equal
      other_kinds
    exact there.symm.trans here

/-- Incidents with a filter `x`. -/
def filteredBy (value : JsonValue) : DashboardCursorContext where
  listType := .incidents
  filters := [("x", value)]
  search := none
  sort := "created_desc"
  pageSize := 25

theorem filteredBy_true_small : jsonSize ((filteredBy (.bool true)).payload
    ([CursorKey.datetime 0, .uuid 7].map CursorKey.value)) ≤ 768 := by decide

/-- The cursor of a row of a context with `True` is accepted in a context with 1. -/
theorem decode_truth_for_one :
    decodeDashboardCursor (cursorOf ((filteredBy (.bool true)).payload
      ([CursorKey.datetime 0, .uuid 7].map CursorKey.value))) (filteredBy (.int 1)) =
        .ok [.datetime 0, .uuid 7] := by
  obtain ⟨_, decoded⟩ := decode_cursorOf (filteredBy (.bool true))
    (filteredBy (.int 1)) rfl (by decide) (by decide) (by decide) (by decide)
    [.datetime 0, .uuid 7] (.cons ⟨by decide, by decide⟩ (.cons trivial .nil))
  rw [decoded, if_pos filteredBy_true_small]

theorem dashboard_cursor_not_canonical :
    ∃ value, (filteredBy (.int 1)).validate = none ∧
      decodeDashboardCursor value (filteredBy (.int 1)) = .ok [.datetime 0, .uuid 7] ∧
      encodeDashboardCursor (filteredBy (.int 1)) [.datetime 0, .uuid 7] ≠ .ok value := by
  refine ⟨_, by decide, decode_truth_for_one, ?_⟩
  rw [ne_eq, encode_eq_iff_sameKinds (by decide) decode_truth_for_one]
  intro kinds
  have written := writtenFilters_cursorOf (filteredBy (.bool true))
    ([CursorKey.datetime 0, .uuid 7].map CursorKey.value) (by decide) (by decide)
    ⟨trivial, trivial, trivial⟩ rfl filteredBy_true_small
  rw [written] at kinds
  exact absurd (kinds "x" (.bool true) (.int 1) List.mem_cons_self List.mem_cons_self) (by decide)

theorem dashboard_cursor_canonical_true :
    encodeDashboardCursor (filteredBy (.bool true)) [.datetime 0, .uuid 7] =
      .ok (cursorOf ((filteredBy (.bool true)).payload
        ([CursorKey.datetime 0, .uuid 7].map CursorKey.value))) := by
  have written := writtenFilters_cursorOf (filteredBy (.bool true))
    ([CursorKey.datetime 0, .uuid 7].map CursorKey.value) (by decide) (by decide)
    ⟨trivial, trivial, trivial⟩ rfl filteredBy_true_small
  obtain ⟨_, decoded⟩ := decode_cursorOf (filteredBy (.bool true))
    (filteredBy (.bool true)) rfl (by decide) (by decide) (by decide) (by decide)
    [.datetime 0, .uuid 7] (.cons ⟨by decide, by decide⟩ (.cons trivial .nil))
  rw [if_pos filteredBy_true_small] at decoded
  refine (dashboard_cursor_canonical (by decide) decoded).1.mpr ?_
  rw [written]
  intro key value other value_in other_in
  cases List.mem_singleton.mp value_in
  cases List.mem_singleton.mp other_in
  rfl

end WolandGuard.Dashboard
