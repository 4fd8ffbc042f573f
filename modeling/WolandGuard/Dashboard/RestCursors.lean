import WolandGuard.Dashboard.Cursors
import WolandGuard.Dashboard.Queries

/-!
# Cursors over REST

`application/pagination.py`: the cursor of a REST list is the base64 of a JSON
object with the keys of the last row and the hash of the filters. A cursor is
read back under the filters it was made for, and refused under filters of any
other hash (`decodeCursor_encodeCursor`).
-/

set_option autoImplicit false

namespace WolandGuard.Dashboard

open Foundations JsonValue Incidents
open Telegram (parseCanonicalUuid parseCanonicalUuid_text)

/-! ## Cursors -/

structure KeysetCursor where
  createdAt : Int
  rowId : Uuid
  filterHash : String
  deriving DecidableEq, Repr

/-- `_HASH_PATTERN`. -/
def isFilterHash (text : String) : Bool :=
  text.toList.length = 64 && text.toList.all "0123456789abcdef".toList.contains

/-- The object that a cursor holds, its keys in order. -/
def keysetPayload (createdAt : Int) (rowId : Uuid) (filterHash : String) :
    List (String × JsonValue) :=
  [("created_at", .str (utcText createdAt)), ("filter_hash", .str filterHash),
    ("id", .str rowId.text), ("v", .int 1)]

/-- `encode_cursor`. The object has no character beyond ASCII, so that it does not
matter that those would be escaped. -/
def encodeCursor (createdAt : Int) (rowId : Uuid) (filterHash : String) : Except String String :=
  if isFilterHash filterHash then
    .ok (cursorOf (.obj (keysetPayload createdAt rowId filterHash)))
  else .error "filter_hash must be a lowercase SHA-256 hex digest"

/-- `_CURSOR_FIELDS`. -/
def keysetFields : List String := ["created_at", "filter_hash", "id", "v"]

/-- `set(payload) == _CURSOR_FIELDS`. -/
def hasKeysetFields (members : List (String × JsonValue)) : Bool :=
  members.all (fun entry => keysetFields.contains entry.1) &&
    keysetFields.all ((members.map Prod.fst).contains ·)

/-- The JSON that a cursor holds, in any spelling. The bound on the length and the
alphabet are those of the Dashboard. -/
def readJson (value : String) : Option JsonValue :=
  (readBytes value).bind fun raw => (utf8Decode raw).bind loads

/-- The checks of an object after it is read. -/
def decodeMembers (expectedFilterHash : String) (members : List (String × JsonValue)) :
    Option KeysetCursor :=
  if !(hasKeysetFields members && isInt 1 (field members "v")) then none
  else
    match field members "filter_hash", field members "created_at", field members "id" with
    | .str filterHash, .str createdAt, .str rowId =>
        if !(isFilterHash filterHash && filterHash == expectedFilterHash) then none
        else
          match parseUtc createdAt, parseCanonicalUuid rowId with
          | some instant, some id => some ⟨instant, id, filterHash⟩
          | _, _ => none
    | _, _, _ => none

/-- `decode_cursor`. All of its errors have one text. -/
def decodeCursor (value expectedFilterHash : String) : Except String KeysetCursor :=
  match ((readJson value).bind objectMembers).bind (decodeMembers expectedFilterHash) with
  | none => .error "invalid cursor"
  | some cursor => .ok cursor

/-- The cursors of the REST lists. -/
def restCursors : CursorCodec String InstantKeys where
  encode filterHash keys := (encodeCursor keys.1 keys.2 filterHash).toOption.getD ""
  decode filterHash value :=
    (decodeCursor value filterHash).toOption.map fun cursor => (cursor.createdAt, cursor.rowId)

/-! ## Cursors are short -/

theorem charSize_le (c : Char) : charSize c ≤ 6 := by
  unfold charSize
  split
  · decide
  split
  · decide
  · unfold utf8Char
    dsimp only
    split_ifs <;> simp only [List.length_cons, List.length_nil] <;> decide

theorem literalSize_le (text : String) : literalSize text ≤ 2 + 6 * text.toList.length := by
  have each : ∀ chars : List Char, (chars.map charSize).sum ≤ 6 * chars.length := by
    intro chars
    induction chars with
    | nil => exact Nat.le_refl 0
    | cons c rest ih =>
        have here := charSize_le c
        rw [List.map_cons, List.sum_cons, List.length_cons]
        omega
  rw [literalSize]
  exact Nat.add_le_add_left (each _) 2

/-- A digest takes a byte for each digit. -/
theorem literalSize_filterHash {text : String} (digest : isFilterHash text = true) :
    literalSize text = 66 := by
  rw [isFilterHash, Bool.and_eq_true, decide_eq_true_iff] at digest
  obtain ⟨length, digits⟩ := digest
  have each : ∀ c ∈ text.toList, charSize c = 1 := by
    intro c member
    have digit := List.all_eq_true.mp digits c member
    have every : ("0123456789abcdef".toList.all fun d => charSize d == 1) = true := by decide
    exact beq_iff_eq.mp (List.all_eq_true.mp every c (List.contains_iff_mem.mp digit))
  rw [literalSize, List.map_congr_left each, List.map_const', List.sum_replicate, length]
  rfl

theorem length_utcText {instant : Int} (holds : IsDatetime instant) :
    (utcText instant).toList.length ≤ 27 := by
  rw [utcText_toList, List.length_append]
  exact Nat.add_le_add_right (length_localText holds) 1

/-- A cursor is never too long. -/
theorem jsonSize_keysetPayload {createdAt : Int} (holds : IsDatetime createdAt) (rowId : Uuid)
    {filterHash : String} (digest : isFilterHash filterHash = true) :
    jsonSize (.obj (keysetPayload createdAt rowId filterHash)) ≤ 768 := by
  have instant := literalSize_le (utcText createdAt)
  have length := length_utcText holds
  have id := literalSize_le (Uuid.text rowId)
  have hash := literalSize_filterHash digest
  have one : (toString (1 : Int)).length = 1 := rfl
  have names : literalSize "created_at" = 12 ∧ literalSize "filter_hash" = 13 ∧
      literalSize "id" = 4 ∧ literalSize "v" = 3 := by decide
  obtain ⟨first, second, third, fourth⟩ := names
  rw [length_uuidText] at id
  simp only [keysetPayload, jsonSize, membersSize, first, second, third, fourth, hash, one,
    List.length_cons, List.length_nil]
  omega

/-! ## Cursors are read back -/

theorem readJson_of_readPayload {value : String} {payload : JsonValue}
    (read : readPayload value = some payload) : readJson value = some payload := by
  unfold readPayload at read
  unfold readJson
  split at read
  · cases read
  next raw bytes =>
    rw [bytes, Option.bind_some]
    split at read
    · cases read
    next found decoded =>
      split at read
      · exact decoded.trans read
      · cases read

/-- The members of a cursor are in order. -/
theorem readJson_cursor {createdAt : Int} (holds : IsDatetime createdAt) (rowId : Uuid)
    {filterHash : String} (digest : isFilterHash filterHash = true) :
    readJson (cursorOf (.obj (keysetPayload createdAt rowId filterHash))) =
      some (.obj (keysetPayload createdAt rowId filterHash)) := by
  have names : keysetFields.Nodup := by decide
  have ascending : keysetFields.Pairwise (· ≤ ·) := by decide
  have in_order : (keysetPayload createdAt rowId filterHash).Pairwise memberOrder := by
    have keys : ((keysetPayload createdAt rowId filterHash).map Prod.fst).Pairwise (· ≤ ·) :=
      ascending
    rw [List.pairwise_map] at keys
    exact keys
  have sorted_payload : (JsonValue.obj (keysetPayload createdAt rowId filterHash)).sorted =
      .obj (keysetPayload createdAt rowId filterHash) := by
    have members : sortedMembers (keysetPayload createdAt rowId filterHash) =
        keysetPayload createdAt rowId filterHash := rfl
    rw [sorted, members, List.Pairwise.insertionSort_eq in_order]
  have formed : WellFormed (.obj (keysetPayload createdAt rowId filterHash)) :=
    ⟨names, trivial, trivial, trivial, trivial, trivial⟩
  refine readJson_of_readPayload ?_
  rw [readPayload_cursorOf formed, if_pos (jsonSize_keysetPayload holds rowId digest),
    sorted_payload]

/-- **A cursor is read back under the hash it was made with, and under no other.** -/
theorem decodeCursor_encodeCursor {createdAt : Int} (holds : IsDatetime createdAt) (rowId : Uuid)
    {filterHash : String} (digest : isFilterHash filterHash = true) (expected : String) :
    ∃ cursor, encodeCursor createdAt rowId filterHash = .ok cursor ∧
      decodeCursor cursor expected =
        if filterHash = expected then .ok ⟨createdAt, rowId, filterHash⟩
        else .error "invalid cursor" := by
  refine ⟨_, if_pos digest, ?_⟩
  have members : decodeMembers expected (keysetPayload createdAt rowId filterHash) =
      if !(isFilterHash filterHash && filterHash == expected) then none
      else
        match parseUtc (utcText createdAt), parseCanonicalUuid (Uuid.text rowId) with
        | some instant, some id => some ⟨instant, id, filterHash⟩
        | _, _ => none := rfl
  rw [decodeCursor, readJson_cursor holds rowId digest, Option.bind_some, objectMembers,
    Option.bind_some, members, digest, parseUtc_utcText holds, parseCanonicalUuid_text]
  by_cases same : filterHash = expected
  · rw [if_pos same, beq_iff_eq.mpr same]
    rfl
  · rw [if_neg same, beq_eq_false_iff_ne.mpr same]
    rfl

theorem restCursors_decode_encode {keys : InstantKeys} (holds : IsDatetime keys.1)
    {filterHash : String} (digest : isFilterHash filterHash = true) (expected : String) :
    restCursors.decode expected (restCursors.encode filterHash keys) =
      if filterHash = expected then some keys else none := by
  obtain ⟨cursor, encoded, decoded⟩ := decodeCursor_encodeCursor holds keys.2 digest expected
  simp only [restCursors, encoded]
  rw [Except.toOption, Option.getD_some, decoded]
  split <;> rfl

theorem isFilterHash_sha256Hex (text : String) : isFilterHash (sha256Hex text) = true := by
  have digits : ∀ width n, ∀ c ∈ (hexText width n).toList,
      "0123456789abcdef".toList.contains c = true := by
    intro width n c member
    rw [hexText, String.toList_ofList] at member
    obtain ⟨i, _, rfl⟩ := List.mem_map.mp member
    have every : ∀ m < 16, "0123456789abcdef".toList.contains
        ("0123456789abcdef".toList.getD m '0') = true := by decide
    exact every _ (Nat.mod_lt _ (by decide))
  have eight : ∀ words : List Sha256.Word,
      ((words.map fun word => hexText 8 word.toNat).flatMap String.toList).length =
        8 * words.length := by
    intro words
    induction words with
    | nil => rfl
    | cons word rest ih =>
        rw [List.map_cons, List.flatMap_cons, List.length_append, hexText_length, ih,
          List.length_cons]
        omega
  rw [isFilterHash, Bool.and_eq_true, decide_eq_true_iff, sha256Hex, String.toList_join]
  constructor
  · rw [eight, Sha256.digest_length]
  · refine List.all_eq_true.mpr fun c member => ?_
    obtain ⟨text, word, there⟩ := List.mem_flatMap.mp member
    obtain ⟨value, _, rfl⟩ := List.mem_map.mp word
    exact digits 8 value.toNat c there

end WolandGuard.Dashboard
