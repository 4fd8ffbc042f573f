import WolandGuard.Data.Values

/-!
# Civil dates

The dates of the proleptic Gregorian calendar and the days they number. Every day
has a date (`validDate_civilDate`), the date of a day gives the day back
(`dayNumber_civilDate`), and every date is that of its day (`civilDate_dayNumber`).

The proofs count a day inside its era of 400 years by its century, its cycle of four
years, the year in the cycle and the day in the year (`EraDay`). Years begin in March
here, as in `civilDate`.
-/

set_option autoImplicit false

namespace WolandGuard

/-! ## Dates -/

def isLeapYear (year : Int) : Bool :=
  year % 4 = 0 && (year % 100 ≠ 0 || year % 400 = 0)

def daysInMonth (year : Int) (month : Nat) : Nat :=
  if month = 2 then if isLeapYear year then 29 else 28
  else if month = 4 ∨ month = 6 ∨ month = 9 ∨ month = 11 then 30
  else 31

/-- A date that exists. -/
structure ValidDate (year : Int) (month day : Nat) : Prop where
  month_pos : 1 ≤ month
  month_le : month ≤ 12
  day_pos : 1 ≤ day
  day_le : day ≤ daysInMonth year month

instance (year : Int) (month day : Nat) : Decidable (ValidDate year month day) :=
  decidable_of_iff (1 ≤ month ∧ month ≤ 12 ∧ 1 ≤ day ∧ day ≤ daysInMonth year month)
    ⟨fun ⟨first, second, third, fourth⟩ => ⟨first, second, third, fourth⟩,
      fun valid => ⟨valid.month_pos, valid.month_le, valid.day_pos, valid.day_le⟩⟩

/-- The months from March. -/
def shiftedMonth (month : Nat) : Nat := if 2 < month then month - 3 else month + 9

/-- The year that began in March. -/
def shiftedYear (year : Int) (month : Nat) : Int := if 2 < month then year else year - 1

/-- The day from 1970-01-01 of a date. -/
def dayNumber (year : Int) (month day : Nat) : Int :=
  let start := shiftedYear year month
  365 * start + start / 4 - start / 100 + start / 400 +
    ((153 * shiftedMonth month + 2) / 5 + day : Nat) - 1 - 719468

/-! ## Days of an era -/

/-- A day of an era of 400 years, counted by century, cycle, year and day. -/
structure EraDay (day century cycle year within : Nat) : Prop where
  day_eq : day = 36524 * century + 1461 * cycle + 365 * year + within
  century_le : century ≤ 3
  cycle_le : cycle ≤ 24
  year_le : year ≤ 3
  within_le : within ≤ 365
  leap : within = 365 → year = 3 ∧ (cycle = 24 → century = 3)

theorem exists_eraDay {day : Nat} (small : day < 146097) :
    ∃ century cycle year within, EraDay day century cycle year within := by
  have centuries : ∃ century rest, day = 36524 * century + rest ∧ century ≤ 3 ∧ rest ≤ 36524 ∧
      (rest = 36524 → century = 3) := by
    refine ⟨min 3 (day / 36524), day - 36524 * min 3 (day / 36524), ?_, ?_, ?_, ?_⟩
    all_goals omega
  obtain ⟨century, rest, split, century_le, rest_le, last⟩ := centuries
  have cycles : ∃ cycle left, rest = 1461 * cycle + left ∧ cycle ≤ 24 ∧ left ≤ 1460 ∧
      (left = 1460 → cycle = 24 → century = 3) := by
    refine ⟨rest / 1461, rest % 1461, ?_, ?_, ?_, ?_⟩
    all_goals omega
  obtain ⟨cycle, left, parts, cycle_le, left_le, leap⟩ := cycles
  refine ⟨century, cycle, min 3 (left / 365), left - 365 * min 3 (left / 365), ?_, century_le,
    cycle_le, ?_, ?_, ?_⟩
  all_goals omega

namespace EraDay

variable {day century cycle year within : Nat}

/-- The year of the era from its day. -/
theorem year_eq (split : EraDay day century cycle year within) :
    (day - day / 1460 + day / 36524 - day / 146096) / 365 = 100 * century + 4 * cycle + year := by
  obtain ⟨rfl, century_le, cycle_le, year_le, within_le, leap⟩ := split
  -- dividing by 1460 counts the cycles of four years, or one more near the end of a cycle
  have cycles : ∃ extra, (36524 * century + 1461 * cycle + 365 * year + within) / 1460 =
      25 * century + cycle + extra ∧ (extra = 0 ∧ within < 365 ∨ extra = 1 ∧ 1 ≤ within) := by
    by_cases near_end : 1460 ≤ 24 * century + cycle + 365 * year + within
    · exact ⟨1, by omega, by omega⟩
    · exact ⟨0, by omega, by omega⟩
  obtain ⟨extra, cycles, extras⟩ := cycles
  by_cases last : century = 3 ∧ cycle = 24 ∧ year = 3 ∧ within = 365
  · omega
  · have centuries :
        (36524 * century + 1461 * cycle + 365 * year + within) / 36524 = century := by omega
    have eras : (36524 * century + 1461 * cycle + 365 * year + within) / 146096 = 0 := by omega
    omega

/-- The days of the era before the year. -/
theorem start_eq (split : EraDay day century cycle year within) :
    let yearOfEra := 100 * century + 4 * cycle + year
    365 * yearOfEra + yearOfEra / 4 - yearOfEra / 100 = day - within ∧ within ≤ day := by
  obtain ⟨rfl, century_le, cycle_le, year_le, within_le, leap⟩ := split
  constructor
  all_goals omega

/-- The leap days before a year that lies some eras later. -/
theorem quotients (split : EraDay day century cycle year within) {start : Int} (era : Int)
    (later : start = ((100 * century + 4 * cycle + year : Nat) : Int) + era * 400) :
    start / 4 = 25 * century + cycle + era * 100 ∧ start / 100 = century + era * 4 ∧
      start / 400 = era := by
  obtain ⟨rfl, century_le, cycle_le, year_le, within_le, leap⟩ := split
  refine ⟨?_, ?_, ?_⟩
  all_goals omega

end EraDay

/-! ## Days of a year -/

/-- The month from March and the day of the month, for a day of a year. -/
theorem exists_monthDay {within : Nat} (small : within ≤ 365) :
    ∃ months days, within = (153 * months + 2) / 5 + days ∧ months ≤ 11 ∧
      days < (153 * (months + 1) + 2) / 5 - (153 * months + 2) / 5 ∧
      (5 * within + 2) / 153 = months :=
  ⟨(5 * within + 2) / 153, within - (153 * ((5 * within + 2) / 153) + 2) / 5, by omega, by omega,
    by omega, rfl⟩

/-- The date of a day that is counted by era, century, cycle, year, month and day. -/
theorem civilDate_of {day era : Int} {dayOfEra century cycle year within months days : Nat}
    (counted : day + 719468 = 146097 * era + dayOfEra)
    (split : EraDay dayOfEra century cycle year within)
    (parts : within = (153 * months + 2) / 5 + days)
    (month : (5 * within + 2) / 153 = months) :
    civilDate day =
      (((100 * century + 4 * cycle + year : Nat) : Int) + era * 400 + (if months < 10 then 0 else 1),
        if months < 10 then months + 3 else months - 9, days + 1) := by
  obtain ⟨start, within_le⟩ := split.start_eq
  have small : dayOfEra < 146097 := by
    obtain ⟨rfl, century_le, cycle_le, year_le, within_le, leap⟩ := split
    omega
  have eras : (day + 719468) / 146097 = era := by omega
  have day_of_era : ((day + 719468) % 146097).toNat = dayOfEra := by omega
  have rest : dayOfEra - (dayOfEra - within) = within := by omega
  rw [civilDate]
  simp only [eras, day_of_era, split.year_eq, start, rest, month]
  have within_days : within - (153 * months + 2) / 5 + 1 = days + 1 := by omega
  have months_le : months ≤ 11 := by
    have bound := split.within_le
    omega
  rw [within_days]
  congr 2
  split
  · rw [if_neg (by omega)]
  · rw [if_pos (by omega)]

/-- **The date of a day numbers the day.** -/
theorem dayNumber_civilDate (day : Int) :
    dayNumber (civilDate day).1 (civilDate day).2.1 (civilDate day).2.2 = day := by
  have small : ((day + 719468) % 146097).toNat < 146097 := by omega
  have counted : day + 719468 =
      146097 * ((day + 719468) / 146097) + (((day + 719468) % 146097).toNat : Nat) := by omega
  obtain ⟨century, cycle, year, within, split⟩ := exists_eraDay small
  obtain ⟨months, days, parts, months_le, days_lt, month⟩ := exists_monthDay split.within_le
  rw [civilDate_of counted split parts month]
  obtain ⟨fours, hundreds, eras⟩ := split.quotients ((day + 719468) / 146097) rfl
  obtain ⟨day_eq, century_le, cycle_le, year_le, within_le, leap⟩ := split
  by_cases early : months < 10
  · simp only [if_pos early, dayNumber, shiftedYear, shiftedMonth]
    rw [if_pos (by omega), if_pos (by omega), Int.add_zero, fours, hundreds, eras,
      Nat.add_sub_cancel]
    omega
  · simp only [if_neg early, dayNumber, shiftedYear, shiftedMonth]
    rw [if_neg (by omega), if_neg (by omega), Int.add_sub_cancel, fours, hundreds, eras,
      Nat.sub_add_cancel (by omega)]
    omega

theorem validDate_civilDate (day : Int) :
    ValidDate (civilDate day).1 (civilDate day).2.1 (civilDate day).2.2 := by
  have small : ((day + 719468) % 146097).toNat < 146097 := by omega
  have counted : day + 719468 =
      146097 * ((day + 719468) / 146097) + (((day + 719468) % 146097).toNat : Nat) := by omega
  obtain ⟨century, cycle, year, within, split⟩ := exists_eraDay small
  obtain ⟨months, days, parts, months_le, days_lt, month⟩ := exists_monthDay split.within_le
  rw [civilDate_of counted split parts month]
  obtain ⟨day_eq, century_le, cycle_le, year_le, within_le, leap⟩ := split
  by_cases early : months < 10
  · simp only [if_pos early]
    refine ⟨by omega, by omega, by omega, ?_⟩
    rw [daysInMonth, if_neg (by omega)]
    split
    all_goals omega
  · simp only [if_neg early]
    refine ⟨by omega, by omega, by omega, ?_⟩
    rw [daysInMonth]
    split
    · have leap_year : within = 365 →
          isLeapYear ((100 * century + 4 * cycle + year : Nat) +
            (day + 719468) / 146097 * 400 + 1) = true := by
        intro last
        simp only [isLeapYear, Bool.and_eq_true, Bool.or_eq_true, decide_eq_true_eq]
        omega
      split
      · omega
      next common =>
        have not_last : within ≠ 365 := fun last => common (leap_year last)
        omega
    · rw [if_neg (by omega)]
      omega

theorem shiftedMonth_le {month : Nat} (month_le : month ≤ 12) (month_pos : 1 ≤ month) :
    shiftedMonth month ≤ 11 := by
  rw [shiftedMonth]
  split
  all_goals omega

/-- A month ends before the next one from March begins. -/
theorem daysInMonth_le (year : Int) {month : Nat} (month_pos : 1 ≤ month) (month_le : month ≤ 12) :
    daysInMonth year month ≤
      (153 * (shiftedMonth month + 1) + 2) / 5 - (153 * shiftedMonth month + 2) / 5 := by
  have longest : ∀ m < 13, 1 ≤ m →
      (if m = 2 then 29 else if m = 4 ∨ m = 6 ∨ m = 9 ∨ m = 11 then 30 else 31) ≤
        (153 * (shiftedMonth m + 1) + 2) / 5 - (153 * shiftedMonth m + 2) / 5 := by decide
  refine le_trans ?_ (longest month (Nat.lt_succ_of_le month_le) month_pos)
  rw [daysInMonth]
  split
  · split
    · exact Nat.le_refl 29
    · exact Nat.le_succ 28
  · exact Nat.le_refl _

/-- The leap day is the last day of its year, and the only one of that number. -/
theorem leap_of_last {year : Int} {month day : Nat} (valid : ValidDate year month day)
    (last : 365 ≤ (153 * shiftedMonth month + 2) / 5 + (day - 1)) :
    (153 * shiftedMonth month + 2) / 5 + (day - 1) = 365 ∧ month = 2 ∧ isLeapYear year = true := by
  obtain ⟨month_pos, month_le, day_pos, day_le⟩ := valid
  have february : month = 2 := by
    by_contra other
    have bound := daysInMonth_le year month_pos month_le
    have early : shiftedMonth month ≤ 10 := by
      rw [shiftedMonth]
      split
      all_goals omega
    omega
  subst february
  have leap : isLeapYear year = true := by
    by_contra common
    rw [daysInMonth, if_pos rfl, if_neg common] at day_le
    have start : shiftedMonth 2 = 11 := rfl
    rw [start] at last
    omega
  rw [daysInMonth, if_pos rfl, if_pos leap] at day_le
  have start : shiftedMonth 2 = 11 := rfl
  rw [start] at last ⊢
  exact ⟨by omega, rfl, leap⟩

/-- **Every date is the date of the day it numbers.** -/
theorem civilDate_dayNumber {year : Int} {month day : Nat} (valid : ValidDate year month day) :
    civilDate (dayNumber year month day) = (year, month, day) := by
  -- the parts of the year that began in March
  have years : ∃ (era : Int) (century cycle rest : Nat), shiftedYear year month =
      ((100 * century + 4 * cycle + rest : Nat) : Int) + era * 400 ∧ century ≤ 3 ∧ cycle ≤ 24 ∧
      rest ≤ 3 :=
    ⟨shiftedYear year month / 400, (shiftedYear year month % 400).toNat / 100,
      (shiftedYear year month % 400).toNat % 100 / 4, (shiftedYear year month % 400).toNat % 4,
      by omega, by omega, by omega, by omega⟩
  obtain ⟨era, century, cycle, rest, year_eq, century_le, cycle_le, rest_le⟩ := years
  have month_bound := daysInMonth_le year valid.month_pos valid.month_le
  have months_le := shiftedMonth_le valid.month_le valid.month_pos
  have within_le : (153 * shiftedMonth month + 2) / 5 + (day - 1) ≤ 365 := by
    by_contra beyond
    have last := leap_of_last valid (by omega)
    omega
  have leap : (153 * shiftedMonth month + 2) / 5 + (day - 1) = 365 →
      rest = 3 ∧ (cycle = 24 → century = 3) := by
    intro last
    obtain ⟨_, february, leap_year⟩ := leap_of_last valid (Nat.le_of_eq last.symm)
    simp only [isLeapYear, Bool.and_eq_true, Bool.or_eq_true, decide_eq_true_eq] at leap_year
    rw [shiftedYear, if_neg (by omega)] at year_eq
    omega
  have split : EraDay (36524 * century + 1461 * cycle + 365 * rest +
      ((153 * shiftedMonth month + 2) / 5 + (day - 1))) century cycle rest
      ((153 * shiftedMonth month + 2) / 5 + (day - 1)) :=
    ⟨rfl, century_le, cycle_le, rest_le, within_le, leap⟩
  obtain ⟨fours, hundreds, eras⟩ := split.quotients era year_eq
  have day_pos := valid.day_pos
  have counted : dayNumber year month day + 719468 = 146097 * era +
      ((36524 * century + 1461 * cycle + 365 * rest +
        ((153 * shiftedMonth month + 2) / 5 + (day - 1)) : Nat) : Int) := by
    simp only [dayNumber]
    rw [fours, hundreds, eras, year_eq]
    omega
  have day_le := valid.day_le
  rw [civilDate_of counted split rfl (by omega), ← year_eq, Nat.sub_add_cancel day_pos]
  have month_pos := valid.month_pos
  have month_le := valid.month_le
  by_cases late : 2 < month
  · have shifted : shiftedMonth month = month - 3 := if_pos late
    rw [shifted, if_pos (by omega), if_pos (by omega), shiftedYear, if_pos late, Int.add_zero,
      Nat.sub_add_cancel late]
  · have shifted : shiftedMonth month = month + 9 := if_neg late
    rw [shifted, if_neg (by omega), if_neg (by omega), shiftedYear, if_neg late,
      Int.sub_add_cancel, Nat.add_sub_cancel]

/-! ## Years -/

theorem daysInMonth_le_31 (year : Int) (month : Nat) : daysInMonth year month ≤ 31 := by
  rw [daysInMonth]
  split_ifs
  all_goals omega

/-- **A date comes again after 365 days**, or after 366 where a leap day lies between. -/
theorem dayNumber_succ (year : Int) (month day : Nat) :
    dayNumber (year + 1) month day = dayNumber year month day + 365 +
      if isLeapYear (shiftedYear year month + 1) then 1 else 0 := by
  have shifted : shiftedYear (year + 1) month = shiftedYear year month + 1 := by
    rw [shiftedYear, shiftedYear]
    split
    · rfl
    · omega
  simp only [dayNumber]
  rw [shifted]
  generalize shiftedYear year month = start
  split
  next leap =>
    simp only [isLeapYear, Bool.and_eq_true, Bool.or_eq_true, decide_eq_true_eq] at leap
    omega
  next common =>
    simp only [isLeapYear, Bool.and_eq_true, Bool.or_eq_true, decide_eq_true_eq] at common
    omega

/-- Years begin at least 365 days apart. -/
theorem first_day_le {year later : Int} (before : year ≤ later) :
    dayNumber year 1 1 + 365 * (later - year) ≤ dayNumber later 1 1 := by
  induction later, before using Int.leInduction with
  | base => omega
  | succ later _ ih =>
      have next := dayNumber_succ later 1 1
      split at next
      all_goals omega

/-- **A date lies in its year.** -/
theorem dayNumber_within {year : Int} {month day : Nat} (valid : ValidDate year month day) :
    dayNumber year 1 1 ≤ dayNumber year month day ∧
      dayNumber year month day < dayNumber (year + 1) 1 1 := by
  obtain ⟨month_pos, month_le, day_pos, day_le⟩ := valid
  have short := Nat.le_trans day_le (daysInMonth_le_31 year month)
  have next := dayNumber_succ year 1 1
  have january : shiftedMonth 1 = 10 := rfl
  by_cases late : 2 < month
  · -- from March on the year has begun before
    have shifted : shiftedMonth month = month - 3 := if_pos late
    simp only [dayNumber, january, shifted, shiftedYear, late] at next ⊢
    simp only [ite_true, Nat.not_lt.mpr (Nat.le_succ 1), ite_false] at next ⊢
    omega
  · have shifted : shiftedMonth month = month + 9 := if_neg late
    simp only [dayNumber, january, shifted, shiftedYear, late] at next ⊢
    simp only [Nat.not_lt.mpr (Nat.le_succ 1), ite_false] at next ⊢
    split at next
    all_goals omega

/-- **Days that are close lie in years that are close.** -/
theorem civilDate_year_le {day later : Int} (close : later < day + 366) :
    (civilDate later).1 ≤ (civilDate day).1 + 1 := by
  by_contra far
  have here := dayNumber_within (validDate_civilDate day)
  have there := dayNumber_within (validDate_civilDate later)
  rw [dayNumber_civilDate] at here there
  have apart : (civilDate day).1 + 1 ≤ (civilDate later).1 := by omega
  have years := first_day_le apart
  omega

end WolandGuard
