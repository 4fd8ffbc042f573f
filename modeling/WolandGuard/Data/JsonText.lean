import WolandGuard.Data.Readable
import WolandGuard.Foundations.Codes

/-!
# Reading JSON

`json.loads` of a text, with an `object_pairs_hook` that refuses duplicate keys.
What it reads and `json.dumps` can write back is a `JsonValue`; a number with a
fraction or an exponent and a lone surrogate are refused here at once.
-/

set_option autoImplicit false

namespace WolandGuard.JsonValue

open Foundations

/-! ## Literals -/

/-- A hexadecimal digit of an escape. -/
def hexValue? (c : Char) : Option Nat :=
  if "0123456789".toList.contains c then some (c.toNat - 48)
  else if "abcdef".toList.contains c then some (c.toNat - 87)
  else if "ABCDEF".toList.contains c then some (c.toNat - 55)
  else none

/-- The four digits after `\u`. -/
def hexFour : List Char → Option (Nat × List Char)
  | a :: b :: c :: d :: rest => do
      let a ← hexValue? a
      let b ← hexValue? b
      let c ← hexValue? c
      let d ← hexValue? d
      return (a * 4096 + b * 256 + c * 16 + d, rest)
  | _ => none

/-- The low half of a surrogate pair. -/
def readLowSurrogate (high : Nat) : List Char → Option (Char × List Char)
  | backslash :: u :: rest =>
      if backslash = '\\' && u = 'u' then do
        let (low, rest) ← hexFour rest
        if 0xDC00 ≤ low && low < 0xE000 then
          return (Char.ofNat (0x10000 + (high - 0xD800) * 1024 + (low - 0xDC00)), rest)
        else none
      else none
  | _ => none

/-- The rest of an escape `\uXXXX`. -/
def readUnicode (chars : List Char) : Option (Char × List Char) :=
  match hexFour chars with
  | none => none
  | some (value, rest) =>
      if 0xD800 ≤ value && value < 0xDC00 then readLowSurrogate value rest
      else if 0xDC00 ≤ value && value < 0xE000 then none
      else some (Char.ofNat value, rest)

/-- The character of an escape of one letter. -/
def simpleEscape (c : Char) : Option Char :=
  if c = '"' || c = '\\' || c = '/' then some c
  else if c = 'n' then some '\n'
  else if c = 'r' then some '\r'
  else if c = 't' then some '\t'
  else if c = 'b' then some (Char.ofNat 8)
  else if c = 'f' then some (Char.ofNat 12)
  else none

def readEscape : List Char → Option (Char × List Char)
  | [] => none
  | c :: rest => if c = 'u' then readUnicode rest else (simpleEscape c).map (·, rest)

/-- One character of a literal; control characters are refused. -/
def readChar : List Char → Option (Char × List Char)
  | [] => none
  | c :: rest =>
      if c = '\\' then readEscape rest else if c.toNat < 32 then none else some (c, rest)

/-- The rest of a literal after its quotation mark. -/
def readLiteral (chars : List Char) : Option (String × List Char) :=
  (readUntil '"' readChar chars.length chars).map fun read => (String.ofList read.1, read.2)

/-! ## Values -/

def skipBlanks (chars : List Char) : List Char :=
  chars.dropWhile fun c => c = ' ' || c = '\t' || c = '\n' || c = '\r'

/-- The digits of an integer: none after a zero. -/
def integerDigits (chars : List Char) : List Char :=
  if chars.head? = some '0' then ['0'] else chars.takeWhile Char.isDigit

/-- An integer that no fraction or exponent follows. -/
def readNatural (chars : List Char) : Option (Nat × List Char) :=
  let digits := integerDigits chars
  let rest := chars.drop digits.length
  if digits.isEmpty || rest.head?.any ['.', 'e', 'E'].contains then none
  else some (Nat.ofDigitChars 10 digits 0, rest)

def readInteger (chars : List Char) : Option (Int × List Char) :=
  if chars.head? = some '-' then (readNatural chars.tail).map fun read => (-read.1, read.2)
  else (readNatural chars).map fun read => (read.1, read.2)

/-- A keyword, and the value it stands for. -/
def readKeyword (word : String) (value : JsonValue) (chars : List Char) :
    Option (JsonValue × List Char) :=
  if word.toList.isPrefixOf chars then some (value, chars.drop word.length) else none

/-- The members of an object, whose keys must differ. -/
def object (read : List (String × JsonValue) × List Char) : Option (JsonValue × List Char) :=
  if (read.1.map Prod.fst).Nodup then some (.obj read.1, read.2) else none

mutual

def readValue : Nat → List Char → Option (JsonValue × List Char)
  | 0, _ => none
  | _ + 1, [] => none
  | fuel + 1, c :: rest =>
      if c = '"' then (readLiteral rest).map fun read => (.str read.1, read.2)
      else if c = '[' then
        match skipBlanks rest with
        | [] => none
        | next :: others =>
            if next = ']' then some (.arr [], others)
            else (readItems fuel (next :: others)).map fun read => (.arr read.1, read.2)
      else if c = '\x7b' then
        match skipBlanks rest with
        | [] => none
        | next :: others =>
            if next = '\x7d' then some (.obj [], others)
            else (readMembers fuel (next :: others)).bind object
      else if c = 'n' then readKeyword "null" .null (c :: rest)
      else if c = 't' then readKeyword "true" (.bool true) (c :: rest)
      else if c = 'f' then readKeyword "false" (.bool false) (c :: rest)
      else (readInteger (c :: rest)).map fun read => (.int read.1, read.2)

/-- The items of a list, up to its bracket. -/
def readItems : Nat → List Char → Option (List JsonValue × List Char)
  | 0, _ => none
  | fuel + 1, chars =>
      match readValue fuel chars with
      | none => none
      | some (item, rest) =>
          match skipBlanks rest with
          | [] => none
          | next :: others =>
              if next = ']' then some ([item], others)
              else if next = ',' then
                (readItems fuel (skipBlanks others)).map fun read => (item :: read.1, read.2)
              else none

/-- The members of an object, up to its brace. -/
def readMembers : Nat → List Char → Option (List (String × JsonValue) × List Char)
  | 0, _ => none
  | _ + 1, [] => none
  | fuel + 1, c :: rest =>
      if c ≠ '"' then none
      else
        match readLiteral rest with
        | none => none
        | some (key, rest) =>
            match skipBlanks rest with
            | [] => none
            | colon :: rest =>
                if colon ≠ ':' then none
                else
                  match readValue fuel (skipBlanks rest) with
                  | none => none
                  | some (value, rest) =>
                      match skipBlanks rest with
                      | [] => none
                      | next :: others =>
                          if next = '\x7d' then some ([(key, value)], others)
                          else if next = ',' then
                            (readMembers fuel (skipBlanks others)).map fun read =>
                              ((key, value) :: read.1, read.2)
                          else none

end

/-- `json.loads(text, object_pairs_hook=_unique_object)`. -/
def loads (chars : List Char) : Option JsonValue :=
  match readValue chars.length (skipBlanks chars) with
  | none => none
  | some (value, rest) => if (skipBlanks rest).isEmpty then some value else none

end WolandGuard.JsonValue
