import Mathlib.Algebra.Group.Nat.Defs
import Mathlib.Algebra.Ring.Int.Defs
import Mathlib.Data.Int.Basic

/-!
# Identifiers and instants

Row ids, server ids, event ids and claim tokens are UUIDs. Their order is the
order of the 128-bit numbers, which is also the order in which the database
sorts them. Instants are integers: microseconds since 1970-01-01 UTC, the
resolution of both `datetime` and `timestamptz`.
-/

set_option autoImplicit false

namespace WolandGuard

/-- A UUID as its 128 bits. -/
abbrev Uuid := BitVec 128

/-- One lower-case hexadecimal digit. -/
def hexDigit (n : Nat) : Char :=
  "0123456789abcdef".toList.getD (n % 16) '0'

/-- A number as lower-case hexadecimal digits of the given width. -/
def hexText (width n : Nat) : String :=
  String.ofList ((List.range width).map fun i => hexDigit (n / 16 ^ (width - 1 - i)))

/-- `str(uuid)`. -/
def Uuid.text (id : Uuid) : String :=
  let group (shift width : Nat) : String := hexText width (id.toNat / 16 ^ shift)
  "-".intercalate [group 24 8, group 20 4, group 16 4, group 12 4, group 0 12]

example : Uuid.text 0x12345678123456781234567812345678 =
    "12345678-1234-5678-1234-567812345678" := by decide

/-- `timedelta(seconds=n)`. -/
def seconds (n : Int) : Int := n * 1000000

theorem seconds_pos {n : Nat} (positive : 0 < n) : 0 < seconds n := by
  unfold seconds
  omega

theorem seconds_nonneg (n : Nat) : 0 ≤ seconds n := by
  unfold seconds
  omega

/-- Rows that carry a sort key made of an instant and an id, such as
`(occurred_at, id)`. -/
def keyLe (left right : Int × Uuid) : Bool :=
  left.1 < right.1 || (left.1 == right.1 && left.2.toNat ≤ right.2.toNat)

theorem keyLe_total (left right : Int × Uuid) :
    keyLe left right = true ∨ keyLe right left = true := by
  simp only [keyLe, Bool.or_eq_true, Bool.and_eq_true, decide_eq_true_eq, beq_iff_eq]
  omega

theorem keyLe_trans {first second third : Int × Uuid} (left : keyLe first second = true)
    (right : keyLe second third = true) : keyLe first third = true := by
  simp only [keyLe, Bool.or_eq_true, Bool.and_eq_true, decide_eq_true_eq, beq_iff_eq] at *
  omega

/-- The key order is by instant first. -/
theorem keyLe_time {left right : Int × Uuid} (before : keyLe left right = true) :
    left.1 ≤ right.1 := by
  simp only [keyLe, Bool.or_eq_true, Bool.and_eq_true, decide_eq_true_eq, beq_iff_eq] at before
  omega

/-! ## ISO 8601 -/

/-- A number in decimal, padded with zeros to a width. -/
def padded (width n : Nat) : String :=
  let digits := (toString n).toList
  String.ofList (List.replicate (width - digits.length) '0' ++ digits)

/-- Year, month and day of a day counted from 1970-01-01 in the proleptic
Gregorian calendar. Years begin in March here, so that the leap day is the
last one of its year. -/
def civilDate (day : Int) : Int × Nat × Nat :=
  let shifted := day + 719468
  let era := shifted / 146097
  let dayOfEra := (shifted % 146097).toNat
  let yearOfEra := (dayOfEra - dayOfEra / 1460 + dayOfEra / 36524 - dayOfEra / 146096) / 365
  let dayOfYear := dayOfEra - (365 * yearOfEra + yearOfEra / 4 - yearOfEra / 100)
  let shiftedMonth := (5 * dayOfYear + 2) / 153
  let month := if shiftedMonth < 10 then shiftedMonth + 3 else shiftedMonth - 9
  let year := yearOfEra + era * 400 + (if month ≤ 2 then 1 else 0)
  (year, month, dayOfYear - (153 * shiftedMonth + 2) / 5 + 1)

/-- `datetime.isoformat()` of an instant in UTC. -/
def isoformat (instant : Int) : String :=
  let (year, month, day) := civilDate (instant / 86400000000)
  let micros := (instant % 86400000000).toNat
  let second := micros / 1000000
  let fraction := micros % 1000000
  padded 4 year.toNat ++ "-" ++ padded 2 month ++ "-" ++ padded 2 day ++ "T" ++
    padded 2 (second / 3600) ++ ":" ++ padded 2 (second / 60 % 60) ++ ":" ++
    padded 2 (second % 60) ++ (if fraction = 0 then "" else "." ++ padded 6 fraction) ++ "+00:00"

example : isoformat 1709211845000250 = "2024-02-29T13:04:05.000250+00:00" := by decide

end WolandGuard
