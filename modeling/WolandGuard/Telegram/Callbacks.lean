import WolandGuard.Incidents.Workflow
import WolandGuard.IpBlocks.Address

/-!
# Callback data

`infrastructure/telegram/callbacks.py`: the closed encoding of what a button
stands for. A received value is untrusted.
-/

set_option autoImplicit false

namespace WolandGuard.Telegram

open Incidents

/-- `CALLBACK_DATA_MAX_BYTES`. -/
def callbackDataMaxBytes : Nat := 64

inductive CallbackAction where
  | incidentAction (incidentId : Uuid) (targetStatus : IncidentStatus) (expectedVersion : Nat)
  | proposeBlock (incidentId : Uuid)
  | decideBlock (planId : Uuid) (approve : Bool)
  deriving DecidableEq, Repr

inductive CallbackDataError where
  | versionOutOfRange
  | sizeLimit
  | shape
  | schemaVersion
  | actionCode
  | identifier
  | notCanonical
  | version
  deriving DecidableEq, Repr

/-- `_ACTION_CODES`. -/
def actionCode : IncidentStatus → Option String
  | .new => none
  | .investigating => some "iv"
  | .resolved => some "rs"
  | .falsePositive => some "fp"

/-- `_STATUS_BY_CODE`. -/
def statusByCode (code : String) : Option IncidentStatus :=
  [.investigating, .resolved, .falsePositive].find? fun status => actionCode status = some code

/-- `_MAX_EXPECTED_VERSION`. -/
def maxExpectedVersion : Nat := 2147483647

/-- `encode_decide_block`. -/
def encodeDecideBlock (planId : Uuid) (approve : Bool) : Except CallbackDataError String :=
  let value := "1:" ++ (if approve then "ba" else "br") ++ ":" ++ Uuid.text planId
  if callbackDataMaxBytes < value.utf8ByteSize then .error .sizeLimit else .ok value

/-! ## Parsing -/

/-- The value of a hexadecimal digit. -/
def hexDigitValue (char : Char) : Option Nat :=
  if char.isDigit then some (char.toNat - '0'.toNat)
  else if 'a' ≤ char ∧ char ≤ 'f' then some (char.toNat - 'a'.toNat + 10)
  else none

/-- `UUID(text)`, where `str` of it is the text again. -/
def parseCanonicalUuid (text : String) : Option Uuid :=
  match (text.toList.filter (· ≠ '-')).mapM hexDigitValue with
  | none => none
  | some digits =>
      let id : Uuid := BitVec.ofNat 128 (digits.foldl (fun number digit => number * 16 + digit) 0)
      if Uuid.text id = text then some id else none

/-! `UUID` takes more texts than these: `urn:uuid:` in front, braces around, dashes
anywhere, and whatever `int(text, 16)` takes. -/

/-- `text.replace(part, "")`, with the characters that are still to be skipped. -/
def without (part : List Char) : Nat → List Char → List Char
  | _, [] => []
  | skipped + 1, _ :: rest => without part skipped rest
  | 0, c :: rest =>
      if part.isPrefixOf (c :: rest) then without part (part.length - 1) rest
      else c :: without part 0 rest

/-- `text.strip(chars)`. -/
def stripAll (isStripped : Char → Bool) (text : List Char) : List Char :=
  ((text.dropWhile isStripped).reverse.dropWhile isStripped).reverse

/-- Hexadecimal digits with single underscores between them. -/
def isHexNumeral : List Char → Bool
  | [] => false
  | [c] => (IpBlocks.hexValue c).isSome
  | c :: '_' :: rest => (IpBlocks.hexValue c).isSome && isHexNumeral rest
  | c :: rest => (IpBlocks.hexValue c).isSome && isHexNumeral rest

/-- What `int` makes of a character first: spaces and digits of every script are
those of ASCII. -/
def asciiNumeral (unicode : UnicodeData) (c : Char) : Char :=
  if c.toNat < 127 then c
  else if unicode.isSpace c then ' '
  else
    match unicode.decimal c with
    | some digit => Nat.digitChar digit
    | none => '?'

/-- `int(text, 16)` takes a text without dashes. -/
def isHexInteger (unicode : UnicodeData) (text : List Char) : Bool :=
  let isSpace (c : Char) : Bool := c = ' ' || (9 ≤ c.toNat && c.toNat ≤ 13)
  let stripped := stripAll isSpace (text.map (asciiNumeral unicode))
  let unsigned :=
    match stripped with
    | '+' :: rest => rest
    | _ => stripped
  match unsigned with
  | '0' :: 'x' :: '_' :: rest | '0' :: 'X' :: '_' :: rest => isHexNumeral rest
  | '0' :: 'x' :: rest | '0' :: 'X' :: rest => isHexNumeral rest
  | _ => isHexNumeral unsigned

/-- `UUID(text)` takes a text. -/
def isUuid (unicode : UnicodeData) (text : String) : Bool :=
  let unprefixed := without "uuid:".toList 0 (without "urn:".toList 0 text.toList)
  let hex := (stripAll (fun c => c = '\x7b' || c = '\x7d') unprefixed).filter (· ≠ '-')
  hex.length = 32 && isHexInteger unicode hex

/-- The reading of an identifier, which has to be canonical. -/
def parseIdentifier (unicode : UnicodeData) (text : String) : Except CallbackDataError Uuid :=
  match parseCanonicalUuid text with
  | some id => .ok id
  | none => .error (if isUuid unicode text then .notCanonical else .identifier)

/-- The checks of the version digits, and `int`. -/
def parseVersion (unicode : UnicodeData) (text : String) : Except CallbackDataError Nat :=
  match text.toList.mapM unicode.decimal with
  | none => .error .version
  | some digits =>
      if digits = [] ∨ text.toList.head? = some '0' ∨ 10 < text.length then .error .version
      else
        let version := digits.foldl (fun number digit => number * 10 + digit) 0
        if 1 ≤ version ∧ version ≤ maxExpectedVersion then .ok version
        else .error .versionOutOfRange

/-- `value.split(":")`. -/
def splitColons (value : String) : List String := (value.toList.splitOn ':').map String.ofList

/-- `parse_incident_action`. -/
def parseIncidentAction (unicode : UnicodeData) (value : String) :
    Except CallbackDataError CallbackAction :=
  if callbackDataMaxBytes < value.utf8ByteSize then .error .sizeLimit
  else
    match splitColons value with
    | [schemaVersion, code, rawIncidentId, rawExpectedVersion] =>
        if schemaVersion ≠ "1" then .error .schemaVersion
        else
          match statusByCode code with
          | none => .error .actionCode
          | some targetStatus => do
              let incidentId ← parseIdentifier unicode rawIncidentId
              let expectedVersion ← parseVersion unicode rawExpectedVersion
              .ok (.incidentAction incidentId targetStatus expectedVersion)
    | _ => .error .shape

/-- `parse_block_action`. -/
def parseBlockAction (unicode : UnicodeData) (value : String) :
    Except CallbackDataError CallbackAction :=
  if callbackDataMaxBytes < value.utf8ByteSize then .error .sizeLimit
  else
    match splitColons value with
    | [schemaVersion, code, rawId] =>
        if schemaVersion ≠ "1" then .error .schemaVersion
        else do
          let parsedId ← parseIdentifier unicode rawId
          if code = "bp" then .ok (.proposeBlock parsedId)
          else if code = "ba" then .ok (.decideBlock parsedId true)
          else if code = "br" then .ok (.decideBlock parsedId false)
          else .error .actionCode
    | _ => .error .shape

/-- `parse_callback_data`. -/
def parseCallbackData (unicode : UnicodeData) (value : String) :
    Except CallbackDataError CallbackAction :=
  let code := (splitColons value).getD 1 ""
  if (statusByCode code).isSome then parseIncidentAction unicode value
  else if code ∈ ["bp", "ba", "br"] then parseBlockAction unicode value
  else .error .actionCode

example : (parseIdentifier .ascii "00000000-0000-0000-0000-00000000000A" matches
      .error .notCanonical) ∧
    (parseIdentifier .ascii "00000000-0000-0000-0000-00000000000g" matches
      .error .identifier) := by
  decide +kernel

end WolandGuard.Telegram
