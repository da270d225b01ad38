import Mathlib.Algebra.BigOperators.Intervals
import Mathlib.Logic.Function.Iterate
import Mathlib.Order.Monotone.Basic
import LatchMutex.Calendar

namespace LatchMutex

/-!
# Dates follow one another

A civil date is a year, a month and a day, and the lengths of the months say what
the next date is.  The conversion of a day count goes another way: by division it
finds an era of 400 years, a year of the era that starts in March, and a month of
that year.  It computes the same dates: it is right about the start of 1970, one
day more leads to the next date, and none of its words wraps on the way.
-/

/-- A day of the proleptic Gregorian calendar. -/
structure CivilDate where
  year : Nat
  month : Nat
  day : Nat
  deriving Repr, DecidableEq, Inhabited

namespace CivilDate

/-- Whether February has one day more in a year. -/
def isLeap (year : Nat) : Bool :=
  year % 4 = 0 ∧ (year % 100 ≠ 0 ∨ year % 400 = 0)

/-- Days of a month of a leap year or of another year. -/
def daysIn (leap : Bool) : Nat → Nat
  | 2 => if leap then 29 else 28
  | 4 | 6 | 9 | 11 => 30
  | _ => 31

/-- The first day of 1970. -/
def epoch : CivilDate := ⟨1970, 1, 1⟩

/-- The day after a day. -/
def next (date : CivilDate) : CivilDate :=
  if date.day < daysIn (isLeap date.year) date.month then
    { date with day := date.day + 1 }
  else if date.month < 12 then
    { date with month := date.month + 1, day := 1 }
  else
    { year := date.year + 1, month := 1, day := 1 }

/-- A month and a day that the year has. -/
structure Valid (date : CivilDate) : Prop where
  month_pos : 1 ≤ date.month
  month_le : date.month ≤ 12
  day_pos : 1 ≤ date.day
  day_le : date.day ≤ daysIn (isLeap date.year) date.month

/-- Days of a year before one of its months. -/
def daysBefore (year month : Nat) : Nat :=
  ∑ earlier ∈ Finset.Ico 1 month, daysIn (isLeap year) earlier

/-- Days from the first one of 1970 to a date. -/
def number (date : CivilDate) : Nat :=
  ∑ year ∈ Finset.Ico 1970 date.year, daysBefore year 13 +
    daysBefore date.year date.month + (date.day - 1)

theorem daysIn_pos (leap : Bool) (month : Nat) : 1 ≤ daysIn leap month := by
  unfold daysIn
  split <;> first | omega | split <;> omega

theorem daysBefore_succ {year month : Nat} (later : 1 ≤ month) :
    daysBefore year (month + 1) = daysBefore year month + daysIn (isLeap year) month :=
  Finset.sum_Ico_succ_top later _

theorem valid_epoch : epoch.Valid := by
  constructor <;> decide

theorem number_epoch : epoch.number = 0 := by
  simp [number, epoch, daysBefore]

variable {date : CivilDate}

theorem next_of_inMonth (inMonth : date.day < daysIn (isLeap date.year) date.month) :
    date.next = { date with day := date.day + 1 } :=
  if_pos inMonth

theorem next_of_monthEnd
    (ends : ¬ date.day < daysIn (isLeap date.year) date.month)
    (inYear : date.month < 12) :
    date.next = { date with month := date.month + 1, day := 1 } := by
  rw [next, if_neg ends, if_pos inYear]

theorem next_of_yearEnd
    (ends : ¬ date.day < daysIn (isLeap date.year) date.month)
    (last : ¬ date.month < 12) :
    date.next = { year := date.year + 1, month := 1, day := 1 } := by
  rw [next, if_neg ends, if_neg last]

theorem Valid.next (valid : date.Valid) : date.next.Valid := by
  obtain ⟨month_pos, month_le, day_pos, day_le⟩ := valid
  unfold CivilDate.next
  split
  · rename_i inMonth
    exact ⟨month_pos, month_le, Nat.le_add_left 1 _, inMonth⟩
  · split
    · rename_i inYear
      exact ⟨Nat.le_add_left 1 _, inYear, Nat.le_refl 1, daysIn_pos _ _⟩
    · exact ⟨Nat.le_refl 1, Nat.le_add_left 1 11, Nat.le_refl 1, daysIn_pos _ _⟩

theorem year_le_next (date : CivilDate) : date.year ≤ date.next.year := by
  unfold CivilDate.next
  split
  · exact Nat.le_refl _
  · split <;> simp

/-- The next date is one day further on. -/
theorem Valid.number_next (valid : date.Valid) (modern : 1970 ≤ date.year) :
    date.next.number = date.number + 1 := by
  obtain ⟨month_pos, month_le, day_pos, day_le⟩ := valid
  unfold CivilDate.next
  split
  · simp only [number]
    omega
  · rename_i monthEnds
    have last : date.day = daysIn (isLeap date.year) date.month := by
      omega
    have month :
        daysBefore date.year (date.month + 1) =
          daysBefore date.year date.month + daysIn (isLeap date.year) date.month :=
      daysBefore_succ month_pos
    split
    · simp only [number, month]
      omega
    · rename_i yearEnds
      have december : date.month = 12 := by
        omega
      rw [december] at last month
      have years := Finset.sum_Ico_succ_top modern fun year => daysBefore year 13
      simp only [number, years, month, december]
      simp only [daysBefore, Finset.Ico_self, Finset.sum_empty]
      omega

/-- From the start of 1970 the days are numbered one after the other. -/
theorem iterate_next (days : Nat) :
    (next^[days] epoch).Valid ∧
      1970 ≤ (next^[days] epoch).year ∧
      (next^[days] epoch).number = days := by
  induction days with
  | zero =>
      exact ⟨valid_epoch, Nat.le_refl _, number_epoch⟩
  | succ days inductionHypothesis =>
      obtain ⟨valid, modern, numbered⟩ := inductionHypothesis
      rw [Function.iterate_succ_apply']
      exact ⟨valid.next, modern.trans (year_le_next _), by rw [valid.number_next modern, numbered]⟩

/-! A year that starts in March ends with the month whose length varies. -/

/-- Months since March on a day of a year that starts in March. -/
def monthFromMarch (dayOfYear : Nat) : Nat :=
  (5 * dayOfYear + 2) / 153

theorem monthFromMarch_lt {dayOfYear : Nat} (within : dayOfYear < 366) :
    monthFromMarch dayOfYear < 12 := by
  unfold monthFromMarch
  omega

/-- Day of the month on a day of a year that starts in March. -/
def dayFromMarch (dayOfYear : Nat) : Nat :=
  dayOfYear - (153 * monthFromMarch dayOfYear + 2) / 5 + 1

/-- Month of the calendar, from the months since March. -/
def monthOfMarch (months : Nat) : Nat :=
  if months < 10 then months + 3 else months - 9

/-- Date of a day of a year that starts in March. -/
def ofMarch (year dayOfYear : Nat) : CivilDate :=
  let month := monthOfMarch (monthFromMarch dayOfYear)
  { year := year + if month ≤ 2 then 1 else 0, month, day := dayFromMarch dayOfYear }

/-- Days of a year that starts in March. -/
def marchYear (year : Nat) : Nat :=
  if isLeap (year + 1) then 366 else 365

theorem marchYear_le (year : Nat) : marchYear year ≤ 366 := by
  unfold marchYear
  split <;> omega

theorem marchYear_pos (year : Nat) : 0 < marchYear year := by
  unfold marchYear
  split <;> omega

/-- A day of such a year, the next day of it, and how the calendar gets there. -/
theorem march_table :
    ∀ leap : Bool, ∀ dayOfYear < 365,
      leap = true ∨ dayOfYear < 364 →
      let month := monthOfMarch (monthFromMarch dayOfYear)
      let nextMonth := monthOfMarch (monthFromMarch (dayOfYear + 1))
      let day := dayFromMarch dayOfYear
      let nextDay := dayFromMarch (dayOfYear + 1)
      if day < daysIn leap month then
        nextMonth = month ∧ nextDay = day + 1
      else if month < 12 then
        month ≠ 2 ∧ nextMonth = month + 1 ∧ nextDay = 1
      else
        nextMonth = 1 ∧ nextDay = 1 := by
  decide +kernel

/-- Only in February it matters whether the year is a leap year. -/
theorem daysIn_of_ne {month : Nat} (other : month ≠ 2) (first second : Bool) :
    daysIn first month = daysIn second month := by
  unfold daysIn
  split <;> trivial

/-- The calendar asks the year of the date, and for February this is the year that March ends. -/
theorem daysIn_ofMarch (year dayOfYear : Nat) :
    daysIn (isLeap (ofMarch year dayOfYear).year) (ofMarch year dayOfYear).month =
      daysIn (isLeap (year + 1)) (ofMarch year dayOfYear).month := by
  by_cases february : (ofMarch year dayOfYear).month = 2
  · have sameYear : (ofMarch year dayOfYear).year = year + 1 := by
      change monthOfMarch (monthFromMarch dayOfYear) = 2 at february
      simp [ofMarch, february]
    rw [sameYear]
  · exact daysIn_of_ne february _ _

/-- Within a year that starts in March the days follow one another. -/
theorem next_ofMarch
    {year dayOfYear : Nat}
    (within : dayOfYear + 1 < marchYear year) :
    (ofMarch year dayOfYear).next = ofMarch year (dayOfYear + 1) := by
  have bounded : dayOfYear < 365 ∧ (isLeap (year + 1) = true ∨ dayOfYear < 364) := by
    unfold marchYear at within
    split at within
    · rename_i leap
      exact ⟨by omega, .inl leap⟩
    · exact ⟨by omega, .inr (by omega)⟩
  have table := march_table (isLeap (year + 1)) dayOfYear bounded.1 bounded.2
  by_cases inMonth :
      dayFromMarch dayOfYear <
        daysIn (isLeap (year + 1)) (monthOfMarch (monthFromMarch dayOfYear))
  · rw [if_pos inMonth] at table
    rw [next_of_inMonth (by rwa [daysIn_ofMarch])]
    simp [ofMarch, table]
  · rw [if_neg inMonth] at table
    by_cases inYear : monthOfMarch (monthFromMarch dayOfYear) < 12
    · rw [if_pos inYear] at table
      obtain ⟨notFebruary, nextMonth, nextDay⟩ := table
      have sameYear :
          monthOfMarch (monthFromMarch dayOfYear) + 1 ≤ 2 ↔
            monthOfMarch (monthFromMarch dayOfYear) ≤ 2 := by
        omega
      rw [next_of_monthEnd (by rwa [daysIn_ofMarch]) inYear]
      simp [ofMarch, nextMonth, nextDay, sameYear]
    · rw [if_neg inYear] at table
      have december : ¬ monthOfMarch (monthFromMarch dayOfYear) ≤ 2 := by
        omega
      rw [next_of_yearEnd (by rwa [daysIn_ofMarch]) inYear]
      simp [ofMarch, table, december]

/-- The last day of February leads to the first of March. -/
theorem next_ofMarch_last
    {year dayOfYear : Nat}
    (ends : dayOfYear + 1 = marchYear year) :
    (ofMarch year dayOfYear).next = ofMarch (year + 1) 0 := by
  unfold marchYear at ends
  split at ends
  · rename_i leap
    obtain rfl : dayOfYear = 365 := by
      omega
    simp [next, ofMarch, monthFromMarch, monthOfMarch, dayFromMarch, leap, daysIn]
  · rename_i common
    obtain rfl : dayOfYear = 364 := by
      omega
    simp [next, ofMarch, monthFromMarch, monthOfMarch, dayFromMarch, common, daysIn]

/-! An era starts with the first of March of a year that 400 divides. -/

/-- Days of an era before a year of it. -/
def yearStart (year : Nat) : Nat :=
  365 * year + year / 4 - year / 100

/-- A day of an era without the leap days that were before it. -/
def withoutLeapDays (dayOfEra : Nat) : Nat :=
  dayOfEra - dayOfEra / 1460 + dayOfEra / 36524 - dayOfEra / 146096

/-- Year of an era on a day of it. -/
def yearOfEra (dayOfEra : Nat) : Nat :=
  withoutLeapDays dayOfEra / 365

theorem withoutLeapDays_mono : Monotone withoutLeapDays := by
  apply monotone_nat_of_le_succ
  intro day
  unfold withoutLeapDays
  omega

/-- The leap days are left out so that a year takes 365 days, from its first day to its last. -/
theorem year_table :
    ∀ year < 400,
      365 * year ≤ withoutLeapDays (yearStart year) ∧
        withoutLeapDays (yearStart year + marchYear year - 1) < 365 * (year + 1) := by
  decide +kernel

theorem yearStart_succ {year : Nat} (within : year < 399) :
    yearStart (year + 1) = yearStart year + marchYear year := by
  unfold yearStart marchYear isLeap
  split <;> simp_all <;> omega

theorem yearEnd_le {year : Nat} (within : year < 400) :
    yearStart year + marchYear year ≤ 146097 := by
  have table : ∀ year < 400, yearStart year + marchYear year ≤ 146097 := by
    decide +kernel
  exact table year within

/-- A day between the first one and the last one of a year is a day of that year. -/
theorem yearOfEra_eq
    {year dayOfEra : Nat}
    (within : year < 400)
    (begun : yearStart year ≤ dayOfEra)
    (unfinished : dayOfEra < yearStart year + marchYear year) :
    yearOfEra dayOfEra = year := by
  obtain ⟨first, last⟩ := year_table year within
  have above := withoutLeapDays_mono begun
  have below := withoutLeapDays_mono (Nat.le_sub_one_of_lt unfinished)
  unfold yearOfEra
  apply Nat.div_eq_of_lt_le <;> omega

/-- Every day of an era is in a year of it. -/
theorem exists_year {dayOfEra : Nat} (within : dayOfEra < 146097) :
    ∃ year < 400, yearStart year ≤ dayOfEra ∧ dayOfEra < yearStart year + marchYear year := by
  induction dayOfEra with
  | zero =>
      exact ⟨0, by decide, by decide, by decide⟩
  | succ day inductionHypothesis =>
      obtain ⟨year, inEra, begun, unfinished⟩ := inductionHypothesis (by omega)
      by_cases same : day + 1 < yearStart year + marchYear year
      · exact ⟨year, inEra, by omega, same⟩
      · -- The day before was the last one of its year, and not of the era.
        have lastYear : yearStart 399 + marchYear 399 = 146097 := by
          decide
        have further : year < 399 := by
          by_contra last
          obtain rfl : year = 399 := by
            omega
          omega
        have start := yearStart_succ further
        have length := marchYear_pos (year + 1)
        exact ⟨year + 1, by omega, by omega, by omega⟩

/-- Date that lies a number of days after the start of 1970, by division. -/
def ofNumber (days : Nat) : CivilDate :=
  let dayOfEra := (days + 719468) % 146097
  let year := yearOfEra dayOfEra
  ofMarch ((days + 719468) / 146097 * 400 + year) (dayOfEra - yearStart year)

/-- The date of a day, once its era and its year are known. -/
theorem ofNumber_eq
    {days era year dayOfYear : Nat}
    (within : year < 400)
    (inYear : dayOfYear < marchYear year)
    (same : days + 719468 = era * 146097 + (yearStart year + dayOfYear)) :
    ofNumber days = ofMarch (era * 400 + year) dayOfYear := by
  have ends := yearEnd_le within
  have dayOfEra : (days + 719468) % 146097 = yearStart year + dayOfYear := by
    omega
  have eraIs : (days + 719468) / 146097 = era := by
    omega
  have yearIs : yearOfEra (yearStart year + dayOfYear) = year :=
    yearOfEra_eq within (by omega) (by omega)
  simp only [ofNumber, dayOfEra, eraIs, yearIs, Nat.add_sub_cancel_left]

/-- Every day has an era, a year of it and a day of that year. -/
theorem exists_era (days : Nat) :
    ∃ era year dayOfYear,
      year < 400 ∧
        dayOfYear < marchYear year ∧
        days + 719468 = era * 146097 + (yearStart year + dayOfYear) := by
  obtain ⟨year, within, begun, unfinished⟩ :=
    exists_year (Nat.mod_lt (days + 719468) (by decide : 0 < 146097))
  exact ⟨(days + 719468) / 146097, year, (days + 719468) % 146097 - yearStart year, within,
    by omega, by omega⟩

/-- Eras do not change which years are leap years. -/
theorem marchYear_era (era year : Nat) : marchYear (era * 400 + year) = marchYear year := by
  have fours : (era * 400 + year + 1) % 4 = (year + 1) % 4 := by
    omega
  have hundreds : (era * 400 + year + 1) % 100 = (year + 1) % 100 := by
    omega
  have eras : (era * 400 + year + 1) % 400 = (year + 1) % 400 := by
    omega
  have leap : isLeap (era * 400 + year + 1) = isLeap (year + 1) := by
    rw [isLeap, isLeap, decide_eq_decide, fours, hundreds, eras]
  rw [marchYear, marchYear, leap]

theorem ofNumber_zero : ofNumber 0 = epoch := by
  decide

/-- One day more is the next date. -/
theorem ofNumber_succ (days : Nat) : ofNumber (days + 1) = (ofNumber days).next := by
  obtain ⟨era, year, dayOfYear, within, inYear, same⟩ := exists_era days
  rw [ofNumber_eq within inYear same]
  by_cases later : dayOfYear + 1 < marchYear year
  · rw [next_ofMarch (by rwa [marchYear_era])]
    exact ofNumber_eq within later (by omega)
  · have ends : dayOfYear + 1 = marchYear year := by
      omega
    rw [next_ofMarch_last (by rwa [marchYear_era])]
    by_cases lastYear : year = 399
    · subst lastYear
      have full : yearStart 399 + marchYear 399 = 146097 := by
        decide
      have start : yearStart 0 = 0 := rfl
      have first : ofNumber (days + 1) = ofMarch ((era + 1) * 400 + 0) 0 :=
        ofNumber_eq (by decide) (marchYear_pos _) (by omega)
      rw [first, Nat.add_mul]
    · have start : yearStart (year + 1) = yearStart year + marchYear year :=
        yearStart_succ (by omega)
      have first : ofNumber (days + 1) = ofMarch (era * 400 + (year + 1)) 0 :=
        ofNumber_eq (by omega) (marchYear_pos _) (by omega)
      rw [first, Nat.add_assoc]

theorem ofNumber_eq_iterate (days : Nat) : ofNumber days = next^[days] epoch := by
  induction days with
  | zero =>
      exact ofNumber_zero
  | succ days inductionHypothesis =>
      rw [ofNumber_succ, inductionHypothesis, Function.iterate_succ_apply']

end CivilDate

end LatchMutex
