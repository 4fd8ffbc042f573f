import Mathlib.Data.List.Sort
import Mathlib.Data.Nat.Size
import Mathlib.Data.Rat.Floor
import Mathlib.Algebra.Order.Field.Rat
import WolandGuard.Data.Values

/-!
# JSON values

The values of event payloads and of rule filters, with the two readings the
detection engine has of them. Filters compare with Python's `==`, in which
`True == 1 == 1.0` and the order of the keys of an object does not matter
(`pyEq`). Grouping, distinct counting, first-seen values and correlation
hashes compare the canonical text (`canonicalValue`):
`json.dumps(value, ensure_ascii=False, separators=(",", ":"), sort_keys=True)`.

A float is the exact binary value, and its text is the shortest decimal that
rounds back to it, as `float.__repr__` prints it.
-/

set_option autoImplicit false

namespace WolandGuard

/-! ## Floats -/

/-- A finite double: plus or minus `mantissa * 2 ^ exponent`, where the
mantissa is odd unless the value is zero. -/
structure JsonFloat where
  negative : Bool
  mantissa : Nat
  exponent : Int
  normal : mantissa = 0 ∧ exponent = 0 ∨
    mantissa % 2 = 1 ∧ mantissa < 2 ^ 53 ∧ -1074 ≤ exponent ∧ exponent + Nat.size mantissa ≤ 1024
  deriving DecidableEq

namespace JsonFloat

/-- The exact value. -/
def toRat (f : JsonFloat) : Rat :=
  (if f.negative then -1 else 1) * f.mantissa * (2 : Rat) ^ f.exponent

/-- The significand and exponent of a double in its own format: 53 bits, or
fewer at the smallest exponent. -/
def formatted (f : JsonFloat) : Nat × Int :=
  let shift := min (53 - Nat.size f.mantissa : Int) (f.exponent + 1074)
  (f.mantissa * 2 ^ shift.toNat, f.exponent - shift)

/-- Whether a decimal rounds to the double. The interval is shorter below a
power of two, and its ends belong to it when the significand is even. -/
def rounds (f : JsonFloat) (candidate : Rat) : Bool :=
  let (significand, exponent) := f.formatted
  let unit := (2 : Rat) ^ exponent
  let upper := (significand + 1 / 2) * unit
  let lower :=
    if significand = 2 ^ 52 ∧ -1074 < exponent then (significand - 1 / 4) * unit
    else (significand - 1 / 2) * unit
  if significand % 2 = 0 then lower ≤ candidate && candidate ≤ upper
  else lower < candidate && candidate < upper

/-- The decimal point of a positive rational: the least `k` with `x < 10 ^ k`. -/
def decimalPoint (x : Rat) : Int :=
  ((List.range 640).find? fun k => x < (10 : Rat) ^ ((k : Int) - 326)).elim 0 fun k =>
    (k : Int) - 326

/-- The decimal with `precision` digits that rounds to the double and lies
closest to it: the digits and the power of ten they are scaled by. -/
def decimalWith (f : JsonFloat) (precision : Nat) : Option (Nat × Int) :=
  let x := |f.toRat|
  let scale := decimalPoint x - precision
  let below := (x / (10 : Rat) ^ scale).floor.toNat
  let fits (digits : Nat) : Bool := f.rounds (digits * (10 : Rat) ^ scale)
  let distance (digits : Nat) : Rat := |digits * (10 : Rat) ^ scale - x|
  match fits below, fits (below + 1) with
  | true, true => some (if distance below ≤ distance (below + 1) then below else below + 1, scale)
  | true, false => some (below, scale)
  | false, true => some (below + 1, scale)
  | false, false => none

/-- The shortest decimal that rounds to the double. -/
def shortest (f : JsonFloat) : Option (Nat × Int) :=
  (List.range 17).findSome? fun p => f.decimalWith (p + 1)

/-- A two-digit signed exponent, as `float.__repr__` writes it. -/
def exponentText (e : Int) : String :=
  (if e < 0 then "-" else "+") ++ (if e.natAbs < 10 then "0" else "") ++ toString e.natAbs

/-- The layout of `float.__repr__`: positional when the first digit stands
between `1e-4` and `1e16`, scientific otherwise. -/
def layout (digits : String) (point : Int) : String :=
  let zeros (n : Nat) : String := String.ofList (List.replicate n '0')
  let text := digits.toList
  if point - 1 < -4 ∨ 16 ≤ point - 1 then
    let tail := String.ofList (text.drop 1)
    String.ofList (text.take 1) ++ (if tail = "" then "" else "." ++ tail) ++ "e" ++
      exponentText (point - 1)
  else if point ≤ 0 then
    "0." ++ zeros point.natAbs ++ digits
  else if text.length ≤ point.toNat then
    digits ++ zeros (point.toNat - text.length) ++ ".0"
  else
    String.ofList (text.take point.toNat) ++ "." ++ String.ofList (text.drop point.toNat)

/-- `float.__repr__`. -/
def repr (f : JsonFloat) : String :=
  let sign := if f.negative then "-" else ""
  if f.mantissa = 0 then sign ++ "0.0"
  else
    match f.shortest with
    | some (digits, scale) =>
        let text := (toString digits).toList
        let kept := (text.reverse.dropWhile (· = '0')).reverse
        sign ++ layout (String.ofList kept) (text.length + scale)
    | none => sign ++ toString f.mantissa ++ "p" ++ toString f.exponent

end JsonFloat

/-! ## Values -/

/-- A JSON value as Python holds it. Integers and floats are different values
with different texts. -/
inductive JsonValue where
  | null
  | bool (value : Bool)
  | int (value : Int)
  | float (value : JsonFloat)
  | str (text : String)
  | arr (items : List JsonValue)
  | obj (members : List (String × JsonValue))

namespace JsonValue

/-- An optional text. -/
def ofOption : Option String → JsonValue
  | none => .null
  | some text => .str text

/-- The number a value counts as in Python's numeric comparison. -/
def number? : JsonValue → Option Rat
  | .bool value => some (if value then 1 else 0)
  | .int value => some value
  | .float value => some value.toRat
  | _ => none

mutual

/-- Python's `==` on JSON values. -/
def pyEq : JsonValue → JsonValue → Bool
  | .null, .null => true
  | .str left, .str right => left == right
  | .arr left, .arr right => pyEqItems left right
  | .obj left, .obj right => left.length == right.length && pyEqMembers left right
  | .bool left, right => right.number? == some (if left then 1 else 0)
  | .int left, right => right.number? == some (left : Rat)
  | .float left, right => right.number? == some left.toRat
  | _, _ => false

def pyEqItems : List JsonValue → List JsonValue → Bool
  | [], [] => true
  | left :: lefts, right :: rights => left.pyEq right && pyEqItems lefts rights
  | _, _ => false

def pyEqMembers : List (String × JsonValue) → List (String × JsonValue) → Bool
  | [], _ => true
  | (key, value) :: rest, other =>
      (match other.lookup key with
        | some found => value.pyEq found
        | none => false) && pyEqMembers rest other

end

/-! ## Canonical text -/

/-- One character inside a JSON string literal, with `ensure_ascii=False`. -/
def escapeChar (c : Char) : List Char :=
  if c = '"' then ['\\', '"']
  else if c = '\\' then ['\\', '\\']
  else if c = '\n' then ['\\', 'n']
  else if c = '\r' then ['\\', 'r']
  else if c = '\t' then ['\\', 't']
  else if c.toNat = 8 then ['\\', 'b']
  else if c.toNat = 12 then ['\\', 'f']
  else if c.toNat < 32 then
    ['\\', 'u', '0', '0', hexDigit (c.toNat / 16), hexDigit c.toNat]
  else [c]

/-- A JSON string literal. -/
def quote (text : String) : String :=
  "\"" ++ String.ofList (text.toList.flatMap escapeChar) ++ "\""

/-- The key order of `sort_keys=True`: by code points. -/
def keyOrder (left right : String × String) : Bool := left.1 ≤ right.1

mutual

/-- `json.dumps` with sorted keys and no spaces. -/
def canonicalValue : JsonValue → String
  | .null => "null"
  | .bool value => if value then "true" else "false"
  | .int value => toString value
  | .float value => value.repr
  | .str text => quote text
  | .arr items => "[" ++ ",".intercalate (canonicalItems items) ++ "]"
  | .obj members =>
      let sorted := (canonicalMembers members).insertionSort (keyOrder · ·)
      "\x7b" ++ ",".intercalate (sorted.map fun entry => quote entry.1 ++ ":" ++ entry.2) ++ "\x7d"

def canonicalItems : List JsonValue → List String
  | [] => []
  | item :: rest => item.canonicalValue :: canonicalItems rest

def canonicalMembers : List (String × JsonValue) → List (String × String)
  | [] => []
  | (key, value) :: rest => (key, value.canonicalValue) :: canonicalMembers rest

end

end JsonValue

end WolandGuard
