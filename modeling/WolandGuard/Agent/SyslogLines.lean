import WolandGuard.Agent.SshMessages
import WolandGuard.Data.IsoFormat
import WolandGuard.Foundations.DeterministicRegex

/-!
# Lines of a syslog file

The stamp of RFC 3164 has no year. `_timestamp` tries the year of the clock and the
year before, and takes the first of the two instants that lies at most a day ahead.
The groups of the stamp are found whatever stands behind it (`groups_of_line`). Of
a line that was written less than 364 days ago, or will have been within a day, the
instant is recovered except across two ends of a year (`recovers_iff`): the year
after the one of the clock is never tried, and the same date a year later may be
within the day ahead that the source allows.
-/

set_option autoImplicit false

namespace WolandGuard.Agent

open Foundations

/-! ## The pattern -/

section Pattern

variable (unicode : UnicodeTables)

/-- `\d` next to `\s`: what is a blank is not a digit. -/
def isStampDigit (c : Char) : Bool := isDecimalDigit unicode c && !isRegexSpace c

/-- The characters of a program's name. -/
def isIdentifierChar (c : Char) : Bool := c.isAlphanum || ['_', '.', '-', '/'].contains c

/-- The stamp of `_SYSLOG_LINE`. -/
def syslogStamp : Regex :=
  .all
    [.group "month" (.literal [Char.isUpper, Char.isLower, Char.isLower]),
      .many isRegexSpace 1 none,
      .group "day" (.many (isStampDigit unicode) 1 (some 2)),
      .many isRegexSpace 1 none,
      .group "hour" (.many (isStampDigit unicode) 2 (some 2)),
      .exactly ':',
      .group "minute" (.many (isStampDigit unicode) 2 (some 2)),
      .exactly ':',
      .group "second" (.many (isStampDigit unicode) 2 (some 2))]

/-- `_SYSLOG_LINE` behind the stamp. -/
def syslogRest : Regex :=
  .all
    [.many isRegexSpace 1 none,
      .group "host" (.many (fun c => !isRegexSpace c) 1 none),
      .many isRegexSpace 1 none,
      .group "identifier" (.many isIdentifierChar 1 (some 64)),
      .optional (.all
        [.exactly '[', .group "pid" (.many (isStampDigit unicode) 1 (some 10)), .exactly ']']),
      .exactly ':',
      .literal [isRegexSpace],
      .group "message" (.many (fun c => c ≠ '\n') 0 none)]

/-- `_SYSLOG_LINE`. -/
def syslogLine : Regex := .seq (syslogStamp unicode) (syslogRest unicode)

end Pattern

/-! ## The year -/

/-- `_MONTHS`. -/
def months : List (String × Nat) :=
  [("jan", 1), ("feb", 2), ("mar", 3), ("apr", 4), ("may", 5), ("jun", 6), ("jul", 7), ("aug", 8),
    ("sep", 9), ("oct", 10), ("nov", 11), ("dec", 12)]

/-- `now + timedelta(days=1)` is later than a `datetime` can be. -/
inductive ClockError where
  | overflowError
  deriving DecidableEq, Repr

instance (instant : Int) : Decidable (IsDatetime instant) :=
  inferInstanceAs (Decidable (_ ∧ _))

/-- The loop over the years, of which some may not have the date. -/
def firstPast (now : Int) (candidateOf : Nat → Option Int) :
    List Nat → Except ClockError (Option Int)
  | [] => .ok none
  | year :: years =>
      match candidateOf year with
      | none => firstPast now candidateOf years
      | some candidate =>
          if IsDatetime (now + dayMicroseconds) then
            if candidate ≤ now + dayMicroseconds then .ok (some candidate)
            else firstPast now candidateOf years
          else .error .overflowError

/-- `_timestamp` at the time `now`. -/
def timestamp (unicode : UnicodeTables) (now : Int) (matched : Captures) :
    Except ClockError (Option Int) :=
  let group (name : String) : List Char := (matched.lookup name).getD []
  let number (name : String) : Nat := intOfDigits unicode (group name)
  match months.lookup (String.ofList ((group "month").map Char.toLower)) with
  | none => .ok none
  | some month =>
      let candidateOf (year : Nat) : Option Int :=
        datetime year month (number "day") (number "hour") (number "minute") (number "second") 0
      firstPast now candidateOf [(yearOf now).toNat, (yearOf now).toNat - 1]

/-- `_record`. A whole number of seconds is multiplied without rounding. -/
def syslogRecord (unicode : UnicodeTables) (now : Int) (cursor text : String) :
    Except ClockError (Option JournalRecord) :=
  match (syslogLine unicode).fullMatch text.toList with
  | none => .ok none
  | some matched =>
      (timestamp unicode now matched).map fun occurredAt =>
        occurredAt.map fun instant =>
          { cursor := cursor
            fields :=
              [("MESSAGE", .str (groupText matched "message")),
                ("SYSLOG_IDENTIFIER", .str (groupText matched "identifier")),
                ("__REALTIME_TIMESTAMP", .int instant)] }

/-! ## The stamp of an instant -/

def monthNames : List String :=
  ["Jan", "Feb", "Mar", "Apr", "May", "Jun", "Jul", "Aug", "Sep", "Oct", "Nov", "Dec"]

/-- The groups of the stamp of an instant. -/
def stampGroups (instant : Int) : Captures :=
  let (_, month, day) := civilDate (instant / 86400000000)
  let second := (instant % 86400000000).toNat / 1000000
  [("month", (monthNames.getD (month - 1) "").toList), ("day", Nat.toDigits 10 day),
    ("hour", (padded 2 (second / 3600)).toList), ("minute", (padded 2 (second / 60 % 60)).toList),
    ("second", (padded 2 (second % 60)).toList)]

/-- The stamp of an instant, as RFC 3164 writes it: the day is padded with a blank. -/
def stampOf (instant : Int) : List Char :=
  let (_, month, day) := civilDate (instant / 86400000000)
  let second := (instant % 86400000000).toNat / 1000000
  (monthNames.getD (month - 1) "").toList ++ (if day < 10 then [' ', ' '] else [' ']) ++
    Nat.toDigits 10 day ++ [' '] ++ (padded 2 (second / 3600)).toList ++ [':'] ++
    (padded 2 (second / 60 % 60)).toList ++ [':'] ++ (padded 2 (second % 60)).toList

example : stampOf 1785846896000250 = "Aug  4 12:34:56".toList := by decide

section Stamp

variable {unicode : UnicodeTables}

theorem isStampDigit_of_isDigit {c : Char} (digit : c.isDigit = true) :
    isStampDigit unicode c = true := by
  have range : 48 ≤ c.toNat ∧ c.toNat ≤ 57 := Char.isDigit_iff_toNat.mp digit
  have table : ∀ n < 58, 48 ≤ n → isRegexSpace (Char.ofNat n) = false := by decide
  have solid := table c.toNat (by omega) range.1
  rw [Char.ofNat_toNat] at solid
  rw [isStampDigit, isDecimalDigit_ascii (by omega), digit, solid]
  rfl

/-- What a digit is not. -/
theorem not_space_of_isStampDigit {c : Char} (digit : isStampDigit unicode c = true) :
    isRegexSpace c = false := by
  rw [isStampDigit, Bool.and_eq_true, Bool.not_eq_true'] at digit
  exact digit.2

theorem not_colon_of_isStampDigit {c : Char} (digit : isStampDigit unicode c = true) :
    decide (c = ':') = false := by
  refine decide_eq_false ?_
  rintro rfl
  rw [isStampDigit, isDecimalDigit_ascii (by decide)] at digit
  cases digit

theorem isStampDigit_eq_false_of_space {c : Char} (space : isRegexSpace c = true) :
    isStampDigit unicode c = false := by
  by_contra digit
  rw [not_space_of_isStampDigit (Bool.of_not_eq_false digit)] at space
  cases space

/-- **The stamp is found in one way.** -/
theorem deterministic_syslogStamp : (syslogStamp unicode).Deterministic := by
  have digits : ∀ c, isStampDigit unicode c = true → isRegexSpace c = false :=
    fun _ => not_space_of_isStampDigit
  have colon : ∀ c, isStampDigit unicode c = true → decide (c = ':') = false :=
    fun _ => not_colon_of_isStampDigit
  have spaces : ∀ c, isRegexSpace c = true → isStampDigit unicode c = false :=
    fun _ => isStampDigit_eq_false_of_space
  refine ⟨trivial, ⟨trivial, ⟨trivial, ⟨trivial, ⟨trivial, ⟨trivial, ⟨trivial, ⟨trivial,
    ⟨trivial, trivial, ?_⟩, ?_⟩, ?_⟩, ?_⟩, ?_⟩, ?_⟩, ?_⟩, ?_⟩, ?_⟩
  all_goals
    intro c continued
    simp only [Regex.continues, Regex.exactly, Bool.false_eq_true] at continued
    try simp only [List.foldr_cons, List.foldr_nil, Regex.exactly, Regex.begins, Regex.nullable]
  all_goals simp_all

/-- A blank ends the stamp. -/
theorem stops_of_syslogRest {text : List Char} {captured : Captures}
    (denotes : (syslogRest unicode).Denotes text captured) : (syslogStamp unicode).Stops text := by
  have apart : ∀ c, (syslogStamp unicode).continues c = true →
      (syslogRest unicode).begins c = false := by
    intro c continued
    have digit : isStampDigit unicode c = true := by
      simpa [syslogStamp, Regex.all, Regex.continues, Regex.nullable, Regex.exactly] using continued
    have solid := not_space_of_isStampDigit digit
    simp [syslogRest, Regex.all, Regex.begins, Regex.nullable, solid]
  have stops := Regex.stops_first apart denotes (Regex.stops_nil _)
  rwa [List.append_nil] at stops

/-- Two digits. -/
theorem denotes_padded {name : String} {n : Nat} (small : n < 100) :
    (Regex.group name (.many (isStampDigit unicode) 2 (some 2))).Denotes (padded 2 n).toList
      [(name, (padded 2 n).toList)] := by
  have length : (padded 2 n).toList.length = 2 := length_padded (by decide) small
  refine Regex.denotes_named ?_ (Nat.le_of_eq length.symm) ?_
  · intro c member
    exact isStampDigit_of_isDigit (isDigit_padded member)
  · intro bound limit
    obtain rfl : 2 = bound := Option.some.inj limit
    exact Nat.le_of_eq length

/-- A capital and two small letters. -/
def isCapitalised : List Char → Bool
  | [first, second, third] => first.isUpper && second.isLower && third.isLower
  | _ => false

theorem exists_of_isCapitalised {name : List Char} (capitalised : isCapitalised name = true) :
    ∃ first second third, name = [first, second, third] ∧
      first.isUpper = true ∧ second.isLower = true ∧ third.isLower = true := by
  match name, capitalised with
  | [first, second, third], capitalised =>
      simp only [isCapitalised, Bool.and_eq_true] at capitalised
      exact ⟨first, second, third, rfl, capitalised.1.1, capitalised.1.2, capitalised.2⟩

/-- The months of the table have names that the pattern matches. -/
theorem month_names {month : Nat} (least : 1 ≤ month) (most : month ≤ 12) :
    (∃ first second third, (monthNames.getD (month - 1) "").toList = [first, second, third] ∧
      first.isUpper = true ∧ second.isLower = true ∧ third.isLower = true) ∧
    months.lookup (String.ofList ((monthNames.getD (month - 1) "").toList.map Char.toLower)) =
      some month := by
  obtain ⟨index, rfl⟩ : ∃ index, month = index + 1 := ⟨month - 1, by omega⟩
  have small : index < 12 := most
  rw [Nat.add_sub_cancel]
  constructor
  · have shapes : ∀ index < 12, isCapitalised (monthNames.getD index "").toList = true := by decide
    exact exists_of_isCapitalised (shapes index small)
  · have numbers : ∀ index < 12, months.lookup
        (String.ofList ((monthNames.getD index "").toList.map Char.toLower)) =
          some (index + 1) := by decide
    exact numbers index small

/-- **The stamp of an instant is one.** -/
theorem denotes_stampOf (instant : Int) :
    (syslogStamp unicode).Denotes (stampOf instant) (stampGroups instant) := by
  have valid := validDate_civilDate (instant / 86400000000)
  rw [stampOf, stampGroups]
  dsimp only
  generalize civilDate (instant / 86400000000) = date at valid ⊢
  generalize second_eq : (instant % 86400000000).toNat / 1000000 = second
  have second_lt : second < 86400 := by omega
  obtain ⟨⟨first, middle, last, name, upper, lower, lower'⟩, _⟩ :=
    month_names valid.month_pos valid.month_le
  have day_le := Nat.le_trans valid.day_le (daysInMonth_le_31 _ _)
  have day_length : (Nat.toDigits 10 date.2.2).length ≤ 2 :=
    (Nat.length_toDigits_le_iff (by decide) (by decide)).mpr (by omega)
  simp only [List.append_assoc]
  have month : (Regex.group "month" (.literal [Char.isUpper, Char.isLower, Char.isLower])).Denotes
      (monthNames.getD (date.2.1 - 1) "").toList
      [("month", (monthNames.getD (date.2.1 - 1) "").toList)] := by
    rw [name]
    exact .group (.literal (.cons upper (.cons lower (.cons lower' .nil))))
  have blanks : (Regex.many isRegexSpace 1 none).Denotes
      (if date.2.2 < 10 then [' ', ' '] else [' ']) [] := by
    split
    all_goals exact .many (List.all_eq_true.mp (by decide)) (by decide) (fun _ none => nomatch none)
  have blank : (Regex.many isRegexSpace 1 none).Denotes [' '] [] :=
    .many (List.all_eq_true.mp (by decide)) (by decide) (fun _ none => nomatch none)
  have day : (Regex.group "day" (.many (isStampDigit unicode) 1 (some 2))).Denotes
      (Nat.toDigits 10 date.2.2) [("day", Nat.toDigits 10 date.2.2)] := by
    refine Regex.denotes_named ?_ (Nat.length_toDigits_pos) ?_
    · intro c member
      exact isStampDigit_of_isDigit (Nat.isDigit_of_mem_toDigits (by decide) (by decide) member)
    · intro bound limit
      obtain rfl : 2 = bound := Option.some.inj limit
      exact day_length
  have number : ∀ (name : String) (n : Nat), n < 100 →
      (Regex.group name (.many (isStampDigit unicode) 2 (some 2))).Denotes (padded 2 n).toList
        [(name, (padded 2 n).toList)] := fun _ _ small => denotes_padded small
  have hour := number "hour" (second / 3600) (by omega)
  have minute := number "minute" (second / 60 % 60) (by omega)
  have last := number "second" (second % 60) (by omega)
  have colon := Regex.denotes_exactly ':'
  have whole := month.all_cons <| blanks.all_cons <| day.all_cons <| blank.all_cons <|
    hour.all_cons <| colon.all_cons <| minute.all_cons <| colon.all_cons <|
    last.all_cons Regex.Denotes.all_nil
  rw [List.append_nil] at whole
  exact whole

/-- **The groups of a line with the stamp are those of its instant**, whatever stands
behind the stamp. -/
theorem groups_of_line {instant : Int} {rest : List Char} {captured : Captures}
    (matched : (syslogLine unicode).fullMatch (stampOf instant ++ ' ' :: rest) = some captured) :
    ∃ more, captured = stampGroups instant ++ more := by
  obtain ⟨left, right, groups, more, whole, rfl, stamp, behind⟩ :=
    (Regex.denotes_of_fullMatch matched).of_seq
  have blank : (syslogStamp unicode).Stops (' ' :: rest) := by
    refine Regex.stops_cons.mpr ?_
    have solid : isStampDigit unicode ' ' = false := isStampDigit_eq_false_of_space (by decide)
    simp [syslogStamp, Regex.all, Regex.continues, Regex.nullable, Regex.exactly, solid]
  obtain ⟨_, same⟩ := stamp.prefix_unique deterministic_syslogStamp (denotes_stampOf instant)
    (stops_of_syslogRest behind) blank whole.symm
  exact ⟨more, by rw [same]⟩

end Stamp

/-! ## Candidates -/

/-- An instant without its fraction of a second. -/
def toSecond (instant : Int) : Int := instant - instant % 1000000

/-- The instant of the stamp in a year. -/
def candidateOf (instant : Int) (year : Nat) : Option Int :=
  let (_, month, day) := civilDate (instant / 86400000000)
  let second := (instant % 86400000000).toNat / 1000000
  datetime year month day (second / 3600) (second / 60 % 60) (second % 60) 0

/-- **The years are tried with the numbers of the stamp.** -/
theorem timestamp_of_line {unicode : UnicodeTables} {written now : Int} {rest : List Char}
    {captured : Captures} (matched : (syslogLine unicode).fullMatch
      (stampOf written ++ ' ' :: rest) = some captured) :
    timestamp unicode now captured =
      firstPast now (candidateOf written) [(yearOf now).toNat, (yearOf now).toNat - 1] := by
  obtain ⟨more, rfl⟩ := groups_of_line matched
  have valid := validDate_civilDate (written / 86400000000)
  obtain ⟨_, month⟩ := month_names valid.month_pos valid.month_le
  have digits : ∀ n, intOfDigits unicode (padded 2 n).toList = n := by
    intro n
    rw [intOfDigits_ascii fun c member => isDigit_padded member, ofDigitChars_padded]
  have day : intOfDigits unicode (Nat.toDigits 10 (civilDate (written / 86400000000)).2.2) =
      (civilDate (written / 86400000000)).2.2 := by
    rw [intOfDigits_ascii fun c member =>
      Nat.isDigit_of_mem_toDigits (by decide) (by decide) member, Nat.ofDigitChars_ten_toDigits]
  simp only [timestamp, stampGroups, List.cons_append, List.nil_append, List.lookup_cons_self,
    Option.getD_some, month]
  have groups : ∀ (first second third fourth fifth : List Char) (others : Captures),
      ([("month", first), ("day", second), ("hour", third), ("minute", fourth),
          ("second", fifth)] ++ others).lookup "day" = some second ∧
        ([("month", first), ("day", second), ("hour", third), ("minute", fourth),
          ("second", fifth)] ++ others).lookup "hour" = some third ∧
        ([("month", first), ("day", second), ("hour", third), ("minute", fourth),
          ("second", fifth)] ++ others).lookup "minute" = some fourth ∧
        ([("month", first), ("day", second), ("hour", third), ("minute", fourth),
          ("second", fifth)] ++ others).lookup "second" = some fifth :=
    fun _ _ _ _ _ _ => ⟨rfl, rfl, rfl, rfl⟩
  simp only [List.cons_append, List.nil_append] at groups
  simp only [groups, Option.getD_some, digits, day]
  rfl

section Candidates

variable {written now candidate : Int} {year : Nat}

/-- A candidate is the date of the stamp in that year, at the time of the stamp. -/
theorem candidateOf_eq (written : Int) (year : Nat) :
    candidateOf written year =
      if 1 ≤ year ∧ year ≤ 9999 ∧ ValidDate year (civilDate (written / 86400000000)).2.1
          (civilDate (written / 86400000000)).2.2 then
        some (dayNumber year (civilDate (written / 86400000000)).2.1
            (civilDate (written / 86400000000)).2.2 * dayMicroseconds +
          (toSecond written - written / 86400000000 * dayMicroseconds))
      else none := by
  rw [candidateOf]
  dsimp only
  generalize civilDate (written / 86400000000) = date
  have clock : (written % 86400000000).toNat / 1000000 / 3600 < 24 ∧
      (written % 86400000000).toNat / 1000000 / 60 % 60 < 60 ∧
      (written % 86400000000).toNat / 1000000 % 60 < 60 ∧ 0 < 1000000 := by omega
  rw [datetime]
  by_cases exists_date : 1 ≤ year ∧ year ≤ 9999 ∧ ValidDate year date.2.1 date.2.2
  · rw [if_pos exists_date, if_pos ⟨exists_date.1, exists_date.2.1, exists_date.2.2, clock⟩,
      toSecond, dayMicroseconds]
    refine congrArg (fun time => some (dayNumber year date.2.1 date.2.2 * 86400000000 + time)) ?_
    omega
  · rw [if_neg exists_date, if_neg]
    intro all
    exact exists_date ⟨all.1, all.2.1, all.2.2.1⟩

/-- In its own year the stamp is the instant. -/
theorem candidateOf_own (holds : IsDatetime written) :
    candidateOf written (yearOf written).toNat = some (toSecond written) := by
  obtain ⟨least, greatest⟩ := holds
  have whole : (((yearOf written).toNat : Nat) : Int) = (civilDate (written / 86400000000)).1 :=
    Int.toNat_of_nonneg (by omega)
  have valid := validDate_civilDate (written / 86400000000)
  have number := dayNumber_civilDate (written / 86400000000)
  rw [candidateOf_eq, whole, if_pos ⟨by omega, by omega, valid⟩, number]
  refine congrArg some ?_
  omega

/-- A candidate lies in the year that it was made for. -/
theorem yearOf_candidate (made : candidateOf written year = some candidate) :
    yearOf candidate = year := by
  rw [candidateOf_eq] at made
  split at made
  next exists_date =>
    obtain rfl := Option.some.inj made
    have day : ∀ number : Int, (number * dayMicroseconds +
        (toSecond written - written / 86400000000 * dayMicroseconds)) / 86400000000 = number := by
      intro number
      rw [dayMicroseconds, toSecond]
      omega
    rw [yearOf, day, civilDate_dayNumber exists_date.2.2]
  · cases made

/-- A leap day lies between the date of an instant and the same date a year later. -/
def LeapDayAhead (instant : Int) : Prop :=
  let (year, month, _) := civilDate (instant / 86400000000)
  isLeapYear (if 2 < month then year + 1 else year) = true

/-- **The candidate of the next year** comes 365 days after the instant, or 366 over a
leap day; the leap day itself does not come again. -/
theorem candidateOf_next (holds : IsDatetime written) (next : yearOf written + 1 ≤ 9999) :
    (candidateOf written (yearOf written + 1).toNat = none ∧ LeapDayAhead written) ∨
      candidateOf written (yearOf written + 1).toNat =
        some (toSecond written + 366 * dayMicroseconds) ∧ LeapDayAhead written ∨
      candidateOf written (yearOf written + 1).toNat =
        some (toSecond written + 365 * dayMicroseconds) ∧ ¬ LeapDayAhead written := by
  obtain ⟨least, greatest⟩ := holds
  have whole : (((yearOf written + 1).toNat : Nat) : Int) =
      (civilDate (written / 86400000000)).1 + 1 := by
    rw [yearOf] at least ⊢
    omega
  have valid := validDate_civilDate (written / 86400000000)
  have number := dayNumber_civilDate (written / 86400000000)
  have again := dayNumber_succ (civilDate (written / 86400000000)).1
    (civilDate (written / 86400000000)).2.1 (civilDate (written / 86400000000)).2.2
  have leap_year : shiftedYear (civilDate (written / 86400000000)).1
      (civilDate (written / 86400000000)).2.1 + 1 =
        if 2 < (civilDate (written / 86400000000)).2.1 then
          (civilDate (written / 86400000000)).1 + 1
        else (civilDate (written / 86400000000)).1 := by
    rw [shiftedYear]
    split
    · rfl
    · omega
  rw [leap_year, number] at again
  rw [candidateOf_eq, whole, LeapDayAhead]
  dsimp only
  split
  next exists_date =>
    right
    by_cases leap : isLeapYear (if 2 < (civilDate (written / 86400000000)).2.1 then
        (civilDate (written / 86400000000)).1 + 1 else (civilDate (written / 86400000000)).1) = true
    · left
      rw [if_pos leap] at again
      refine ⟨congrArg some ?_, leap⟩
      rw [again, dayMicroseconds]
      omega
    · right
      rw [if_neg leap] at again
      refine ⟨congrArg some ?_, leap⟩
      rw [again, dayMicroseconds]
      omega
  next no_date =>
    left
    refine ⟨rfl, ?_⟩
    -- only the leap day is missing in the next year
    have missing : ¬ ValidDate ((civilDate (written / 86400000000)).1 + 1)
        (civilDate (written / 86400000000)).2.1 (civilDate (written / 86400000000)).2.2 := by
      intro there
      exact no_date ⟨by omega, by omega, there⟩
    generalize civilDate (written / 86400000000) = date at valid missing ⊢
    obtain ⟨year, month, day⟩ := date
    obtain ⟨month_pos, month_le, day_pos, day_le⟩ := valid
    dsimp only at *
    have february : month = 2 := by
      by_contra other
      refine missing ⟨month_pos, month_le, day_pos, ?_⟩
      rwa [daysInMonth, if_neg other] at day_le ⊢
    subst february
    by_contra common
    refine missing ⟨month_pos, month_le, day_pos, ?_⟩
    rw [if_neg (by decide)] at common
    rw [daysInMonth, if_pos rfl, if_neg common] at day_le
    refine Nat.le_trans day_le ?_
    rw [daysInMonth, if_pos rfl]
    split
    all_goals decide

end Candidates

/-! ## The instant is recovered -/

/-- The source dates every line with the stamp of `written` to that second. -/
def RecoversInstant (unicode : UnicodeTables) (written now : Int) : Prop :=
  ∀ (rest : List Char) (captured : Captures),
    (syslogLine unicode).fullMatch (stampOf written ++ ' ' :: rest) = some captured →
      timestamp unicode now captured = .ok (some (toSecond written))

/-- The clock is not within a day of the end of time, the stamp is not of the year
after the clock's, and a stamp of the year before does not come again within a day. -/
structure Recoverable (written now : Int) : Prop where
  clock : IsDatetime (now + dayMicroseconds)
  notAhead : yearOf written ≤ yearOf now
  notAgain : yearOf written < yearOf now →
    LeapDayAhead written ∨ now - toSecond written < 364 * dayMicroseconds

/-- What the loop returns is a candidate. -/
theorem firstPast_spec {now candidate : Int} {candidates : Nat → Option Int} {years : List Nat}
    (returned : firstPast now candidates years = .ok (some candidate)) :
    IsDatetime (now + dayMicroseconds) ∧ ∃ year ∈ years, candidates year = some candidate := by
  induction years with
  | nil => cases returned
  | cons year years ih =>
      rw [firstPast] at returned
      split at returned
      · obtain ⟨clock, year, member, made⟩ := ih returned
        exact ⟨clock, year, List.mem_cons_of_mem _ member, made⟩
      next first made =>
        split at returned
        next clock =>
          split at returned
          · cases returned
            exact ⟨clock, year, List.mem_cons_self .., made⟩
          · obtain ⟨_, year, member, made⟩ := ih returned
            exact ⟨clock, year, List.mem_cons_of_mem _ member, made⟩
        · cases returned

/-- The loop takes a candidate that lies in the past, and passes over one that does
not. -/
theorem firstPast_cons {now candidate : Int} {candidates : Nat → Option Int} {year : Nat}
    {years : List Nat} (clock : IsDatetime (now + dayMicroseconds))
    (made : candidates year = some candidate) :
    firstPast now candidates (year :: years) =
      if candidate ≤ now + dayMicroseconds then .ok (some candidate)
      else firstPast now candidates years := by
  rw [firstPast, made]
  dsimp only
  rw [if_pos clock]

section Recovery

variable {unicode : UnicodeTables} {written now : Int}

/-- Every stamp is the one of a line. -/
theorem exists_line (unicode : UnicodeTables) (written : Int) : ∃ captured,
    (syslogLine unicode).fullMatch (stampOf written ++ ' ' :: "h s: ".toList) = some captured := by
  have blank : (Regex.many isRegexSpace 1 none).Denotes [' '] [] :=
    .many (List.all_eq_true.mp (by decide)) (by decide) (fun _ none => nomatch none)
  have host : (Regex.group "host" (.many (fun c => !isRegexSpace c) 1 none)).Denotes ['h']
      [("host", ['h'])] :=
    Regex.denotes_named (List.all_eq_true.mp (by decide)) (by decide) (fun _ none => nomatch none)
  have identifier : (Regex.group "identifier" (.many isIdentifierChar 1 (some 64))).Denotes ['s']
      [("identifier", ['s'])] := by
    refine Regex.denotes_named (List.all_eq_true.mp (by decide)) (by decide) ?_
    intro bound limit
    obtain rfl : 64 = bound := Option.some.inj limit
    decide
  have end_of_name : (Regex.literal [isRegexSpace]).Denotes [' '] [] :=
    .literal (.cons (by decide) .nil)
  have message : (Regex.group "message" (.many (fun c => c ≠ '\n') 0 none)).Denotes []
      [("message", [])] :=
    Regex.denotes_named (fun _ member => nomatch member) (Nat.le_refl 0) (fun _ none => nomatch none)
  have rest : (syslogRest unicode).Denotes (' ' :: "h s: ".toList)
      [("host", ['h']), ("identifier", ['s']), ("message", [])] :=
    blank.all_cons <| host.all_cons <| blank.all_cons <| identifier.all_cons <|
      Regex.Denotes.skipped.all_cons <| (Regex.denotes_exactly ':').all_cons <|
      end_of_name.all_cons <| message.all_cons Regex.Denotes.all_nil
  exact Regex.exists_fullMatch ((denotes_stampOf written).seq rest)

theorem recovers_iff_loop : RecoversInstant unicode written now ↔
    firstPast now (candidateOf written) [(yearOf now).toNat, (yearOf now).toNat - 1] =
      .ok (some (toSecond written)) := by
  constructor
  · intro recovers
    obtain ⟨captured, matched⟩ := exists_line unicode written
    rw [← timestamp_of_line matched]
    exact recovers _ captured matched
  · intro loop rest captured matched
    rw [timestamp_of_line matched, loop]

/-- **When the year is found.** Of an instant that the clock has left behind by less
than 364 days, or reaches within a day. -/
theorem recovers_iff (holds : IsDatetime written) (clock : IsDatetime now)
    (early : -dayMicroseconds ≤ now - written) (late : now - written < 364 * dayMicroseconds) :
    RecoversInstant unicode written now ↔ Recoverable written now := by
  rw [recovers_iff_loop]
  have own := candidateOf_own holds
  have second : toSecond written ≤ written ∧ written - 1000000 < toSecond written := by
    rw [toSecond]
    omega
  have within : toSecond written ≤ now + dayMicroseconds := by omega
  have close : yearOf now ≤ yearOf written + 1 := by
    refine civilDate_year_le ?_
    rw [dayMicroseconds] at late
    omega
  obtain ⟨least, _⟩ := holds
  obtain ⟨_, greatest⟩ := clock
  constructor
  · intro returned
    obtain ⟨in_range, year, tried, made⟩ := firstPast_spec returned
    have same_year : yearOf (toSecond written) = yearOf written := by
      rw [yearOf, yearOf, toSecond]
      congr 2
      omega
    have year_eq := yearOf_candidate made
    rw [same_year] at year_eq
    refine ⟨in_range, ?_, ?_⟩
    · simp only [List.mem_cons, List.not_mem_nil, or_false] at tried
      omega
    · intro before
      have later : yearOf now = yearOf written + 1 := by omega
      rw [later] at returned greatest
      rcases candidateOf_next ⟨least, by omega⟩ greatest with ⟨_, leap⟩ | ⟨_, leap⟩ | ⟨next, _⟩
      · exact .inl leap
      · exact .inl leap
      · right
        rw [firstPast_cons in_range next] at returned
        by_contra far
        rw [if_pos (by omega)] at returned
        have same := Option.some.inj (Except.ok.inj returned)
        rw [dayMicroseconds] at same
        omega
  · intro recoverable
    obtain ⟨in_range, not_ahead, not_again⟩ := recoverable
    by_cases same : yearOf now = yearOf written
    · rw [same, firstPast_cons in_range own, if_pos within]
    · have later : yearOf now = yearOf written + 1 := by omega
      have earlier : (yearOf written + 1).toNat - 1 = (yearOf written).toNat := by omega
      have taken : firstPast now (candidateOf written) [(yearOf written).toNat] =
          .ok (some (toSecond written)) := by
        rw [firstPast_cons in_range own, if_pos within]
      rw [later] at greatest
      rw [later, earlier]
      rcases candidateOf_next ⟨least, by omega⟩ greatest with
        ⟨missing, _⟩ | ⟨next, _⟩ | ⟨next, common⟩
      · rw [firstPast, missing]
        exact taken
      · rw [firstPast_cons in_range next, if_neg, taken]
        rw [dayMicroseconds] at late ⊢
        omega
      · rcases not_again (by omega) with leap | recent
        · exact absurd leap common
        · rw [firstPast_cons in_range next, if_neg, taken]
          omega

/-- A stamp of the leap day, read the year after. -/
theorem recovers_iff_leap_day : RecoversInstant .ascii 1709208000000000 1736899200000000 := by
  have leap : LeapDayAhead 1709208000000000 := by
    unfold LeapDayAhead
    decide
  exact (recovers_iff (by decide) (by decide) (by decide) (by decide)).mpr
    ⟨by decide, by decide, fun _ => .inl leap⟩

/-- A line that is written ten seconds after New Year and read by a clock twenty
seconds behind is dated a year back. -/
theorem year_before_new_year :
    -dayMicroseconds ≤ (1767225590000000 : Int) - 1767225610000000 ∧
      (1767225590000000 : Int) - 1767225610000000 < 364 * dayMicroseconds ∧
      ¬ RecoversInstant .ascii 1767225610000000 1767225590000000 := by
  refine ⟨by decide, by decide, ?_⟩
  rw [recovers_iff_loop]
  have dated : firstPast 1767225590000000 (candidateOf 1767225610000000)
      [(yearOf 1767225590000000).toNat, (yearOf 1767225590000000).toNat - 1] =
        .ok (some 1735689610000000) := by rfl
  rw [dated]
  intro same
  exact absurd (Option.some.inj (Except.ok.inj same)) (by decide)

end Recovery

end WolandGuard.Agent
