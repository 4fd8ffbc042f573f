import WolandGuard.Data.Calendar

/-!
# Timestamps as text

`datetime.isoformat` of an instant in UTC and `datetime.fromisoformat` of the texts
that it writes. The second inverts the first (`fromisoformat_isoformat`) on the
instants that a `datetime` can hold.
-/

set_option autoImplicit false

namespace WolandGuard

/-! ## Instants -/

/-- The microseconds of a day. -/
def dayMicroseconds : Int := 86400000000

/-- `datetime(year, month, day, hour, minute, second, microsecond, tzinfo=UTC)`. -/
def datetime (year month day hour minute second microsecond : Nat) : Option Int :=
  if 1 ≤ year ∧ year ≤ 9999 ∧ ValidDate year month day ∧ hour < 24 ∧ minute < 60 ∧ second < 60 ∧
      microsecond < 1000000 then
    some (dayNumber year month day * dayMicroseconds +
      (((hour * 60 + minute) * 60 + second) * 1000000 + microsecond : Nat))
  else none

/-- The year of an instant. -/
def yearOf (instant : Int) : Int := (civilDate (instant / 86400000000)).1

/-- The instants that a `datetime` holds. -/
def IsDatetime (instant : Int) : Prop := 1 ≤ yearOf instant ∧ yearOf instant ≤ 9999

/-- **An instant is the one of its date and its time of day.** -/
theorem datetime_civilDate {instant : Int} (holds : IsDatetime instant) :
    let (year, month, day) := civilDate (instant / 86400000000)
    let micros := (instant % 86400000000).toNat
    let second := micros / 1000000
    datetime year.toNat month day (second / 3600) (second / 60 % 60) (second % 60)
      (micros % 1000000) = some instant := by
  have valid := validDate_civilDate (instant / 86400000000)
  have number := dayNumber_civilDate (instant / 86400000000)
  obtain ⟨least, greatest⟩ := holds
  rw [yearOf] at least greatest
  dsimp only
  have year : (((civilDate (instant / 86400000000)).1.toNat : Nat) : Int) =
      (civilDate (instant / 86400000000)).1 := Int.toNat_of_nonneg (by omega)
  rw [datetime, year, if_pos, number, dayMicroseconds]
  · refine congrArg some ?_
    omega
  · refine ⟨by omega, by omega, valid, ?_⟩
    omega

/-! ## Numbers of a fixed width -/

def readPadded (width : Nat) (chars : List Char) : Option (Nat × List Char) :=
  if (chars.take width).length = width && (chars.take width).all Char.isDigit then
    some (Nat.ofDigitChars 10 (chars.take width) 0, chars.drop width)
  else none

/-- A separator. -/
def readMark (mark : Char) : List Char → Option (List Char)
  | [] => none
  | c :: rest => if c = mark then some rest else none

theorem padded_toList (width n : Nat) :
    (padded width n).toList =
      List.replicate (width - (Nat.toDigits 10 n).length) '0' ++ Nat.toDigits 10 n := by
  rw [padded, String.toList_ofList]
  change List.replicate (width - (Nat.repr n).toList.length) '0' ++ (Nat.repr n).toList = _
  rw [Nat.toList_repr]

theorem length_padded {width n : Nat} (positive : 0 < width) (small : n < 10 ^ width) :
    (padded width n).toList.length = width := by
  have fits := (Nat.length_toDigits_le_iff (b := 10) (by decide) positive).mpr small
  rw [padded_toList, List.length_append, List.length_replicate, Nat.sub_add_cancel fits]

theorem isDigit_padded {width n : Nat} {c : Char} (member : c ∈ (padded width n).toList) :
    c.isDigit = true := by
  rw [padded_toList, List.mem_append] at member
  rcases member with zero | digit
  · rw [List.eq_of_mem_replicate zero]
    rfl
  · exact Nat.isDigit_of_mem_toDigits (by decide) (by decide) digit

theorem ofDigitChars_padded (width n : Nat) : Nat.ofDigitChars 10 (padded width n).toList 0 = n := by
  rw [padded_toList, Nat.ofDigitChars_append, Nat.ofDigitChars_replicate_zero, Nat.mul_zero,
    Nat.ofDigitChars_ten_toDigits]

/-- **A number of a fixed width is read back.** -/
theorem readPadded_padded {width n : Nat} (positive : 0 < width) (small : n < 10 ^ width)
    (rest : List Char) :
    readPadded width ((padded width n).toList ++ rest) = some (n, rest) := by
  have length := length_padded positive small
  have digits : (padded width n).toList.all Char.isDigit = true :=
    List.all_eq_true.mpr fun _ member => isDigit_padded member
  rw [readPadded, List.take_left' length, List.drop_left' length, length, digits,
    ofDigitChars_padded]
  simp

theorem readMark_cons (mark : Char) (rest : List Char) :
    readMark mark (mark :: rest) = some rest := by
  rw [readMark, if_pos rfl]

/-! ## Timestamps -/

/-- The microseconds, which are written when they are not zero. -/
def readFraction (chars : List Char) : Option (Nat × List Char) :=
  if chars.head? = some '.' then readPadded 6 chars.tail else some (0, chars)

/-- `datetime.fromisoformat` of a text in UTC. Of the other forms that it reads, none
is the text that `isoformat` writes of the instant. -/
def fromisoformat (chars : List Char) : Option Int := do
  let (year, chars) ← readPadded 4 chars
  let chars ← readMark '-' chars
  let (month, chars) ← readPadded 2 chars
  let chars ← readMark '-' chars
  let (day, chars) ← readPadded 2 chars
  let chars ← readMark 'T' chars
  let (hour, chars) ← readPadded 2 chars
  let chars ← readMark ':' chars
  let (minute, chars) ← readPadded 2 chars
  let chars ← readMark ':' chars
  let (second, chars) ← readPadded 2 chars
  let (microsecond, chars) ← readFraction chars
  if chars = "+00:00".toList then datetime year month day hour minute second microsecond
  else none

/-- The date and time of an instant, without the offset. -/
def localText (instant : Int) : List Char :=
  let (year, month, day) := civilDate (instant / 86400000000)
  let micros := (instant % 86400000000).toNat
  let second := micros / 1000000
  let fraction := micros % 1000000
  (padded 4 year.toNat).toList ++ '-' :: ((padded 2 month).toList ++ '-' :: ((padded 2 day).toList ++
    'T' :: ((padded 2 (second / 3600)).toList ++ ':' :: ((padded 2 (second / 60 % 60)).toList ++
      ':' :: ((padded 2 (second % 60)).toList ++
        if fraction = 0 then [] else '.' :: (padded 6 fraction).toList)))))

theorem isoformat_toList (instant : Int) :
    (isoformat instant).toList = localText instant ++ "+00:00".toList := by
  rw [isoformat, localText]
  dsimp only
  split
  all_goals simp [String.toList_append]

theorem length_localText {instant : Int} (holds : IsDatetime instant) :
    (localText instant).length ≤ 26 := by
  have valid := validDate_civilDate (instant / 86400000000)
  obtain ⟨least, greatest⟩ := holds
  rw [yearOf] at least greatest
  have month_le := valid.month_le
  have day_le := valid.day_le
  have bound := daysInMonth_le (civilDate (instant / 86400000000)).1 valid.month_pos valid.month_le
  have year : ((padded 4 (civilDate (instant / 86400000000)).1.toNat).toList).length = 4 :=
    length_padded (by decide) (by omega)
  have month : ((padded 2 (civilDate (instant / 86400000000)).2.1).toList).length = 2 :=
    length_padded (by decide) (by omega)
  have day : ((padded 2 (civilDate (instant / 86400000000)).2.2).toList).length = 2 :=
    length_padded (by decide) (by omega)
  have two : ∀ n < 100, ((padded 2 n).toList).length = 2 :=
    fun n small => length_padded (by decide) (by omega)
  have six : ∀ n < 1000000, ((padded 6 n).toList).length = 6 :=
    fun n small => length_padded (by decide) (by omega)
  rw [localText]
  dsimp only
  simp only [List.length_append, List.length_cons, year, month, day]
  rw [two _ (by omega), two _ (by omega), two _ (by omega)]
  split
  · simp
  · rw [List.length_cons, six _ (by omega)]

/-- The characters of a date and time. -/
theorem mem_localText {instant : Int} {c : Char} (member : c ∈ localText instant) :
    c.isDigit = true ∨ c ∈ "-T:.+".toList := by
  rw [localText] at member
  dsimp only at member
  have fraction : ∀ n : Nat, c ∈ (if n = 0 then [] else '.' :: (padded 6 n).toList) →
      c.isDigit = true ∨ c ∈ "-T:.+".toList := by
    intro n there
    split at there
    · cases there
    · rcases List.mem_cons.mp there with rfl | digit
      · exact .inr (by decide)
      · exact .inl (isDigit_padded digit)
  simp only [List.mem_append, List.mem_cons] at member
  rcases member with year | rfl | month | rfl | day | rfl | hour | rfl | minute | rfl | second |
    rest
  · exact .inl (isDigit_padded year)
  · exact .inr (by decide)
  · exact .inl (isDigit_padded month)
  · exact .inr (by decide)
  · exact .inl (isDigit_padded day)
  · exact .inr (by decide)
  · exact .inl (isDigit_padded hour)
  · exact .inr (by decide)
  · exact .inl (isDigit_padded minute)
  · exact .inr (by decide)
  · exact .inl (isDigit_padded second)
  · exact fraction _ rest

theorem readFraction_fraction {fraction : Nat} (small : fraction < 1000000) :
    readFraction ((if fraction = 0 then [] else '.' :: (padded 6 fraction).toList) ++
      "+00:00".toList) = some (fraction, "+00:00".toList) := by
  split
  next zero =>
    subst zero
    rfl
  next =>
    rw [readFraction, List.cons_append, if_pos List.head?_cons, List.tail_cons]
    exact readPadded_padded (by decide) small _

/-- **Reading the text of an instant gives the instant.** -/
theorem fromisoformat_isoformat {instant : Int} (holds : IsDatetime instant) :
    fromisoformat (isoformat instant).toList = some instant := by
  have whole := datetime_civilDate holds
  have valid := validDate_civilDate (instant / 86400000000)
  obtain ⟨least, greatest⟩ := holds
  rw [yearOf] at least greatest
  rw [isoformat_toList, localText]
  dsimp only at whole ⊢
  have year_small : (civilDate (instant / 86400000000)).1.toNat < 10 ^ 4 := by omega
  have month_small : (civilDate (instant / 86400000000)).2.1 < 10 ^ 2 := by
    have bound := valid.month_le
    omega
  have day_small : (civilDate (instant / 86400000000)).2.2 < 10 ^ 2 := by
    have bound := daysInMonth_le (civilDate (instant / 86400000000)).1 valid.month_pos valid.month_le
    have day_le := valid.day_le
    omega
  simp only [List.append_assoc, List.cons_append]
  rw [fromisoformat, readPadded_padded (by decide) year_small]
  simp only [Option.bind_eq_bind, Option.bind_some, readMark_cons]
  rw [readPadded_padded (by decide) month_small]
  simp only [Option.bind_some, readMark_cons]
  rw [readPadded_padded (by decide) day_small]
  simp only [Option.bind_some, readMark_cons]
  rw [readPadded_padded (by decide) (by omega)]
  simp only [Option.bind_some, readMark_cons]
  rw [readPadded_padded (by decide) (by omega)]
  simp only [Option.bind_some, readMark_cons]
  rw [readPadded_padded (by decide) (by omega)]
  simp only [Option.bind_some]
  rw [readFraction_fraction (Nat.mod_lt _ (by decide))]
  simp only [Option.bind_some]
  rw [if_pos trivial, whole]

theorem localText_inj {left right : Int} (holds : IsDatetime left) (other : IsDatetime right)
    (same : localText left = localText right) : left = right := by
  have read := fromisoformat_isoformat holds
  rw [isoformat_toList, same, ← isoformat_toList, fromisoformat_isoformat other] at read
  exact (Option.some.inj read).symm

/-! ## Offsets -/

/-- A `datetime` with a time zone, which is ahead of UTC by whole minutes. -/
structure AwareDatetime where
  instant : Int
  offsetMinutes : Int
  offset_lt : offsetMinutes.natAbs < 1440
  deriving DecidableEq, Repr

/-- `utcoffset` as `isoformat` writes it. -/
def offsetText (minutes : Int) : List Char :=
  (if minutes < 0 then '-' else '+') ::
    ((padded 2 (minutes.natAbs / 60)).toList ++ ':' :: (padded 2 (minutes.natAbs % 60)).toList)

theorem length_offsetText {minutes : Int} (small : minutes.natAbs < 1440) :
    (offsetText minutes).length = 6 := by
  have hours : ((padded 2 (minutes.natAbs / 60)).toList).length = 2 :=
    length_padded (by decide) (by omega)
  have rest : ((padded 2 (minutes.natAbs % 60)).toList).length = 2 :=
    length_padded (by decide) (by omega)
  rw [offsetText, List.length_cons, List.length_append, List.length_cons, hours, rest]

theorem mem_offsetText {minutes : Int} {c : Char} (member : c ∈ offsetText minutes) :
    c.isDigit = true ∨ c ∈ "-T:.+".toList := by
  rw [offsetText, List.mem_cons, List.mem_append, List.mem_cons] at member
  rcases member with sign | hours | rfl | rest
  · rw [sign]
    split
    · exact .inr (by decide)
    · exact .inr (by decide)
  · exact .inl (isDigit_padded hours)
  · exact .inr (by decide)
  · exact .inl (isDigit_padded rest)

theorem offsetText_inj {left right : Int} (small : left.natAbs < 1440)
    (other : right.natAbs < 1440) (same : offsetText left = offsetText right) : left = right := by
  obtain ⟨sign, digits⟩ := List.cons_eq_cons.mp same
  have width : ((padded 2 (left.natAbs / 60)).toList).length =
      ((padded 2 (right.natAbs / 60)).toList).length := by
    rw [length_padded (by decide) (by omega), length_padded (by decide) (by omega)]
  obtain ⟨hours, rest⟩ := List.append_inj digits width
  have minutes := (List.cons_eq_cons.mp rest).2
  have number {n m : Nat} (equal : (padded 2 n).toList = (padded 2 m).toList) : n = m := by
    rw [← ofDigitChars_padded 2 n, equal, ofDigitChars_padded]
  have whole := number hours
  have part := number minutes
  have signs : left < 0 ↔ right < 0 := by
    by_cases negative : left < 0
    · by_cases other_negative : right < 0
      · simp [negative, other_negative]
      · rw [if_pos negative, if_neg other_negative] at sign
        exact absurd sign (by decide)
    · by_cases other_negative : right < 0
      · rw [if_neg negative, if_pos other_negative] at sign
        exact absurd sign (by decide)
      · simp [negative, other_negative]
  omega

namespace AwareDatetime

def utc (instant : Int) : AwareDatetime := ⟨instant, 0, by decide⟩

/-- The date and time that a clock in the time zone shows. -/
def localTime (moment : AwareDatetime) : Int := moment.instant + moment.offsetMinutes * 60000000

/-- `datetime.isoformat`. -/
def isoformat (moment : AwareDatetime) : String :=
  String.ofList (localText moment.localTime ++ offsetText moment.offsetMinutes)

theorem isoformat_utc (instant : Int) : (utc instant).isoformat = WolandGuard.isoformat instant := by
  have offset : offsetText 0 = "+00:00".toList := by decide
  refine String.toList_inj.mp ?_
  rw [isoformat, String.toList_ofList, isoformat_toList]
  simp only [utc, localTime, Int.zero_mul, Int.add_zero, offset]

variable {moment other : AwareDatetime}

theorem mem_isoformat {c : Char} (member : c ∈ moment.isoformat.toList) :
    c.isDigit = true ∨ c ∈ "-T:.+".toList := by
  rw [isoformat, String.toList_ofList, List.mem_append] at member
  rcases member with here | offset
  · exact mem_localText here
  · exact mem_offsetText offset

theorem length_isoformat (holds : IsDatetime moment.localTime) : moment.isoformat.length ≤ 32 := by
  rw [isoformat, String.length_ofList, List.length_append, length_offsetText moment.offset_lt]
  exact Nat.add_le_add_right (length_localText holds) 6

/-- **The text of a `datetime` tells the instant and the offset.** -/
theorem isoformat_inj (holds : IsDatetime moment.localTime) (others : IsDatetime other.localTime)
    (same : moment.isoformat = other.isoformat) : moment = other := by
  have chars := String.ofList_injective same
  have widths := (length_offsetText moment.offset_lt).trans (length_offsetText other.offset_lt).symm
  obtain ⟨times, offsets⟩ := List.append_inj' chars widths
  have offset := offsetText_inj moment.offset_lt other.offset_lt offsets
  have time := localText_inj holds others times
  obtain ⟨instant, offsetMinutes, _⟩ := moment
  obtain ⟨otherInstant, otherOffset, _⟩ := other
  simp only [localTime] at time offset
  subst offset
  have instants : instant = otherInstant := by omega
  subst instants
  rfl

end AwareDatetime

end WolandGuard
