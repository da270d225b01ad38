import LatchMutex.Proofs.CalendarDates

namespace LatchMutex

/-!
# Timestamps are exact

The words of the conversion of a day count never wrap, so that it computes the
date of `CivilDate.ofNumber`.  A timestamp is this date with the time of day.  Its
text is read back by cutting it at its punctuation, and what is read tells the
second and the millisecond that it was printed for.
-/

namespace Checked

/-- The sum of two words, if it is a word. -/
def add (first second : UInt64) : Option UInt64 :=
  if first.toNat + second.toNat < 2 ^ 64 then some (first + second) else none

/-- The difference of two words, if it is not negative. -/
def sub (first second : UInt64) : Option UInt64 :=
  if second.toNat ≤ first.toNat then some (first - second) else none

/-- The product of two words, if it is a word. -/
def mul (first second : UInt64) : Option UInt64 :=
  if first.toNat * second.toNat < 2 ^ 64 then some (first * second) else none

/-- With and without checks a computation comes to the same word, and the word has a value. -/
structure Gives (checked : Option UInt64) (unchecked word : UInt64) (value : Nat) : Prop where
  checked : checked = some word
  unchecked : unchecked = word
  value : word.toNat = value

variable {first second : UInt64} {left right : Nat}

theorem add_gives
    (leftIs : first.toNat = left)
    (rightIs : second.toNat = right)
    (fits : left + right < 2 ^ 64) :
    ∃ word, Gives (add first second) (first + second) word (left + right) := by
  subst leftIs rightIs
  exact ⟨_, if_pos fits, rfl, by rw [UInt64.toNat_add, Nat.mod_eq_of_lt fits]⟩

theorem sub_gives
    (leftIs : first.toNat = left)
    (rightIs : second.toNat = right)
    (fits : right ≤ left) :
    ∃ word, Gives (sub first second) (first - second) word (left - right) := by
  subst leftIs rightIs
  exact ⟨_, if_pos fits, rfl,
    UInt64.toNat_sub_of_le _ _ (UInt64.le_iff_toNat_le.mpr fits)⟩

theorem mul_gives
    (leftIs : first.toNat = left)
    (rightIs : second.toNat = right)
    (fits : left * right < 2 ^ 64) :
    ∃ word, Gives (mul first second) (first * second) word (left * right) := by
  subst leftIs rightIs
  exact ⟨_, if_pos fits, rfl, by rw [UInt64.toNat_mul, Nat.mod_eq_of_lt fits]⟩

theorem toNat_div
    (leftIs : first.toNat = left)
    (rightIs : second.toNat = right) :
    (first / second).toNat = left / right := by
  rw [UInt64.toNat_div, leftIs, rightIs]

end Checked

namespace Date

/-- The date as numbers. -/
def civil (date : Date) : CivilDate where
  year := date.year.toNat
  month := date.month.toNat
  day := date.day.toNat

/-- Year of an era on a day of it, if no word wraps. -/
def yearOfEra? (dayOfEra : UInt64) : Option UInt64 := do
  let counted ← Checked.sub dayOfEra (dayOfEra / 1460)
  let counted ← Checked.add counted (dayOfEra / 36524)
  let counted ← Checked.sub counted (dayOfEra / 146096)
  pure (counted / 365)

/-- Days of an era before a year of it, if no word wraps. -/
def yearStart? (year : UInt64) : Option UInt64 := do
  let days ← Checked.mul 365 year
  let days ← Checked.add days (year / 4)
  Checked.sub days (year / 100)

/-- Months since March on a day of a year that starts in March, if no word wraps. -/
def monthFromMarch? (dayOfYear : UInt64) : Option UInt64 := do
  let scaled ← Checked.mul 5 dayOfYear
  let scaled ← Checked.add scaled 2
  pure (scaled / 153)

/-- Day of the month on a day of such a year, if no word wraps. -/
def dayFromMarch? (dayOfYear monthFromMarch : UInt64) : Option UInt64 := do
  let before ← Checked.mul 153 monthFromMarch
  let before ← Checked.add before 2
  let day ← Checked.sub dayOfYear (before / 5)
  Checked.add day 1

/-- Month of the calendar, from the months since March, if no word wraps. -/
def monthOfMarch? (months : UInt64) : Option UInt64 :=
  if months < 10 then Checked.add months 3 else Checked.sub months 9

/-- Date that lies a number of days after the start of 1970, if no word wraps on the way. -/
def ofDays? (days : UInt64) : Option Date := do
  let shifted ← Checked.add days epochShift
  let era := shifted / daysPerEra
  let dayOfEra := shifted % daysPerEra
  let yearOfEra ← yearOfEra? dayOfEra
  let yearStart ← yearStart? yearOfEra
  let dayOfYear ← Checked.sub dayOfEra yearStart
  let monthFromMarch ← monthFromMarch? dayOfYear
  let day ← dayFromMarch? dayOfYear monthFromMarch
  let month ← monthOfMarch? monthFromMarch
  let eras ← Checked.mul era 400
  let year ← Checked.add yearOfEra eras
  let year ← Checked.add year (if month ≤ 2 then 1 else 0)
  pure { year, month, day }

variable {dayOfEra year dayOfYear months : UInt64} {number : Nat}

theorem yearOfEra?_gives (is : dayOfEra.toNat = number) (within : number < 146097) :
    ∃ word,
      Checked.Gives (yearOfEra? dayOfEra)
        ((dayOfEra - dayOfEra / 1460 + dayOfEra / 36524 - dayOfEra / 146096) / 365) word
        (CivilDate.yearOfEra number) := by
  have quarters : (dayOfEra / 1460).toNat = number / 1460 := Checked.toNat_div is rfl
  have centuries : (dayOfEra / 36524).toNat = number / 36524 := Checked.toNat_div is rfl
  have eras : (dayOfEra / 146096).toNat = number / 146096 := Checked.toNat_div is rfl
  obtain ⟨first, firstIs⟩ := Checked.sub_gives is quarters (Nat.div_le_self _ _)
  obtain ⟨second, secondIs⟩ := Checked.add_gives firstIs.value centuries (by omega)
  obtain ⟨third, thirdIs⟩ := Checked.sub_gives secondIs.value eras (by omega)
  refine ⟨third / 365, ?_, ?_, Checked.toNat_div thirdIs.value rfl⟩
  · simp [yearOfEra?, firstIs.checked, secondIs.checked, thirdIs.checked]
  · rw [firstIs.unchecked, secondIs.unchecked, thirdIs.unchecked]

theorem yearStart?_gives (is : year.toNat = number) (within : number < 400) :
    ∃ word,
      Checked.Gives (yearStart? year) (365 * year + year / 4 - year / 100) word
        (CivilDate.yearStart number) := by
  have quarters : (year / 4).toNat = number / 4 := Checked.toNat_div is rfl
  have centuries : (year / 100).toNat = number / 100 := Checked.toNat_div is rfl
  have plainYear : (365 : UInt64).toNat = 365 := rfl
  obtain ⟨first, firstIs⟩ := Checked.mul_gives plainYear is (by omega)
  obtain ⟨second, secondIs⟩ := Checked.add_gives firstIs.value quarters (by omega)
  obtain ⟨third, thirdIs⟩ := Checked.sub_gives secondIs.value centuries (by omega)
  refine ⟨third, ?_, ?_, thirdIs.value⟩
  · simp [yearStart?, firstIs.checked, secondIs.checked, thirdIs.checked]
  · rw [firstIs.unchecked, secondIs.unchecked, thirdIs.unchecked]

theorem monthFromMarch?_gives (is : dayOfYear.toNat = number) (within : number < 366) :
    ∃ word,
      Checked.Gives (monthFromMarch? dayOfYear) ((5 * dayOfYear + 2) / 153) word
        (CivilDate.monthFromMarch number) := by
  have five : (5 : UInt64).toNat = 5 := rfl
  have two : (2 : UInt64).toNat = 2 := rfl
  obtain ⟨first, firstIs⟩ := Checked.mul_gives five is (by omega)
  obtain ⟨second, secondIs⟩ := Checked.add_gives firstIs.value two (by omega)
  refine ⟨second / 153, ?_, ?_, Checked.toNat_div secondIs.value rfl⟩
  · simp [monthFromMarch?, firstIs.checked, secondIs.checked]
  · rw [firstIs.unchecked, secondIs.unchecked]

theorem dayFromMarch?_gives
    (is : dayOfYear.toNat = number)
    (within : number < 366)
    (monthsAre : months.toNat = CivilDate.monthFromMarch number) :
    ∃ word,
      Checked.Gives (dayFromMarch? dayOfYear months) (dayOfYear - (153 * months + 2) / 5 + 1) word
        (CivilDate.dayFromMarch number) := by
  have few := CivilDate.monthFromMarch_lt within
  have started : (153 * CivilDate.monthFromMarch number + 2) / 5 ≤ number := by
    unfold CivilDate.monthFromMarch
    omega
  have fiveMonths : (153 : UInt64).toNat = 153 := rfl
  have five : (5 : UInt64).toNat = 5 := rfl
  have two : (2 : UInt64).toNat = 2 := rfl
  have one : (1 : UInt64).toNat = 1 := rfl
  obtain ⟨first, firstIs⟩ := Checked.mul_gives fiveMonths monthsAre (by omega)
  obtain ⟨second, secondIs⟩ := Checked.add_gives firstIs.value two (by omega)
  have before := Checked.toNat_div secondIs.value five
  obtain ⟨third, thirdIs⟩ := Checked.sub_gives is before started
  obtain ⟨fourth, fourthIs⟩ := Checked.add_gives thirdIs.value one (by omega)
  refine ⟨fourth, ?_, ?_, fourthIs.value⟩
  · simp [dayFromMarch?, firstIs.checked, secondIs.checked, thirdIs.checked, fourthIs.checked]
  · rw [firstIs.unchecked, secondIs.unchecked, thirdIs.unchecked, fourthIs.unchecked]

theorem monthOfMarch?_gives (is : months.toNat = number) (few : number < 12) :
    ∃ word,
      Checked.Gives (monthOfMarch? months) (if months < 10 then months + 3 else months - 9) word
        (CivilDate.monthOfMarch number) := by
  have early : months < 10 ↔ number < 10 := by
    rw [UInt64.lt_iff_toNat_lt, is]
    rfl
  unfold monthOfMarch? CivilDate.monthOfMarch
  simp only [early]
  split
  · exact Checked.add_gives is rfl (by omega)
  · exact Checked.sub_gives is rfl (by omega)

/-- The year of the date is the next one from January on, the tenth month after March. -/
theorem toNat_januaryOn {month : UInt64} (is : month.toNat = number) :
    (if month ≤ 2 then 1 else 0 : UInt64).toNat = if number ≤ 2 then 1 else 0 := by
  have early : month ≤ 2 ↔ number ≤ 2 := by
    rw [UInt64.le_iff_toNat_le, is]
    rfl
  simp only [early]
  split <;> rfl

theorem toNat_epochShift : epochShift.toNat = 719468 :=
  rfl

theorem toNat_daysPerEra : daysPerEra.toNat = 146097 :=
  rfl

/-- As long as the shifted day count is a word, no word wraps, and the date is the right one. -/
theorem ofDays?_eq {days : UInt64} (room : days.toNat + 719468 < 2 ^ 64) :
    ofDays? days = some (ofDays days) ∧ (ofDays days).civil = .ofNumber days.toNat := by
  have here : days.toNat = days.toNat := rfl
  obtain ⟨shifted, shiftedIs⟩ := Checked.add_gives here toNat_epochShift room
  have eraIs := Checked.toNat_div shiftedIs.value toNat_daysPerEra
  have dayOfEraIs : (shifted % daysPerEra).toNat = (days.toNat + 719468) % 146097 := by
    rw [UInt64.toNat_mod, shiftedIs.value]
    rfl
  have inEra := Nat.mod_lt (days.toNat + 719468) (by decide : 0 < 146097)
  obtain ⟨number, within, begun, unfinished⟩ := CivilDate.exists_year inEra
  have length := CivilDate.marchYear_le number
  have inYear : (days.toNat + 719468) % 146097 - CivilDate.yearStart number < 366 := by
    omega
  have yearIs := CivilDate.yearOfEra_eq within begun unfinished
  obtain ⟨yearOfEra, yearOfEraIs⟩ := yearOfEra?_gives dayOfEraIs inEra
  rw [yearIs] at yearOfEraIs
  obtain ⟨yearStart, yearStartIs⟩ := yearStart?_gives yearOfEraIs.value within
  obtain ⟨dayOfYear, dayOfYearIs⟩ := Checked.sub_gives dayOfEraIs yearStartIs.value begun
  obtain ⟨months, monthsAre⟩ := monthFromMarch?_gives dayOfYearIs.value inYear
  obtain ⟨day, dayIs⟩ := dayFromMarch?_gives dayOfYearIs.value inYear monthsAre.value
  obtain ⟨month, monthIs⟩ :=
    monthOfMarch?_gives monthsAre.value (CivilDate.monthFromMarch_lt inYear)
  have yearsPerEra : (400 : UInt64).toNat = 400 := rfl
  obtain ⟨eras, erasAre⟩ := Checked.mul_gives eraIs yearsPerEra (by omega)
  obtain ⟨march, marchIs⟩ := Checked.add_gives yearOfEraIs.value erasAre.value (by omega)
  obtain ⟨year, isYear⟩ :=
    Checked.add_gives marchIs.value (toNat_januaryOn monthIs.value) (by split <;> omega)
  have unchecked : ofDays days = { year, month, day } := by
    simp only [ofDays, shiftedIs.unchecked, yearOfEraIs.unchecked, yearStartIs.unchecked,
      dayOfYearIs.unchecked, monthsAre.unchecked, dayIs.unchecked, monthIs.unchecked,
      erasAre.unchecked, marchIs.unchecked, isYear.unchecked]
  rw [unchecked]
  constructor
  · simp only [ofDays?, shiftedIs.checked, yearOfEraIs.checked, yearStartIs.checked,
      dayOfYearIs.checked, monthsAre.checked, dayIs.checked, monthIs.checked, erasAre.checked,
      marchIs.checked, isYear.checked, Option.bind_eq_bind, Option.bind_some, Option.pure_def]
  · simp only [civil, isYear.value, monthIs.value, dayIs.value, CivilDate.ofNumber, yearIs,
      CivilDate.ofMarch, Nat.add_comm number]

/-- One day more is the next date. -/
theorem ofDays_succ {days : UInt64} (room : days.toNat + 1 + epochShift.toNat < 2 ^ 64) :
    ofDays? days = some (ofDays days) ∧ (ofDays (days + 1)).civil = (ofDays days).civil.next := by
  rw [toNat_epochShift] at room
  have today : days.toNat + 719468 < 2 ^ 64 := by
    omega
  have tomorrow : (days + 1).toNat = days.toNat + 1 := by
    rw [UInt64.toNat_add]
    exact Nat.mod_eq_of_lt (by simp; omega)
  have later : (days + 1).toNat + 719468 < 2 ^ 64 := by
    omega
  obtain ⟨unwrapped, here⟩ := ofDays?_eq today
  rw [(ofDays?_eq later).2, here, tomorrow]
  exact ⟨unwrapped, CivilDate.ofNumber_succ _⟩

end Date

/-- A date and a time of day, to the millisecond. -/
structure Timestamp where
  date : CivilDate
  hour : Nat
  minute : Nat
  second : Nat
  millis : Nat
  deriving Repr, DecidableEq, Inhabited

namespace Timestamp

/-- The timestamp as it is printed, each field with its width. -/
def characters (stamp : Timestamp) : List Char :=
  Digits.paddedText 4 stamp.date.year ++ '-' :: Digits.paddedText 2 stamp.date.month
    ++ '-' :: Digits.paddedText 2 stamp.date.day ++ 'T' :: Digits.paddedText 2 stamp.hour
    ++ ':' :: Digits.paddedText 2 stamp.minute ++ ':' :: Digits.paddedText 2 stamp.second
    ++ '.' :: Digits.paddedText 3 stamp.millis ++ ['Z']

/-- Text of the timestamp. -/
def text (stamp : Timestamp) : String :=
  String.ofList stamp.characters

/-- Seconds from the start of 1970, counted over the years, months and days before. -/
def seconds (stamp : Timestamp) : Nat :=
  86400 * stamp.date.number + 3600 * stamp.hour + 60 * stamp.minute + stamp.second

/-- A date of the calendar and a time of a day. -/
structure InRange (stamp : Timestamp) : Prop where
  date : stamp.date.Valid
  hour : stamp.hour < 24
  minute : stamp.minute < 60
  second : stamp.second < 60
  millis : stamp.millis < 1000

/-- The number before a separator, and what follows the separator. -/
def numberBefore? (separator : Char) (characters : List Char) : Option (Nat × List Char) :=
  match characters.span (· ≠ separator) with
  | (_, []) => none
  | (digits, _ :: rest) => (Digits.parse? digits).map fun number => (number, rest)

/-- The timestamp that a text spells. -/
def read? (text : String) : Option Timestamp := do
  let (year, rest) ← numberBefore? '-' text.toList
  let (month, rest) ← numberBefore? '-' rest
  let (day, rest) ← numberBefore? 'T' rest
  let (hour, rest) ← numberBefore? ':' rest
  let (minute, rest) ← numberBefore? ':' rest
  let (second, rest) ← numberBefore? '.' rest
  let (millis, rest) ← numberBefore? 'Z' rest
  if rest.isEmpty then
    some { date := { year, month, day }, hour, minute, second, millis }
  else
    none

/-- A padded number ends before a separator that is no digit. -/
theorem numberBefore?_paddedText
    {separator : Char}
    (apart : Digits.ofChar? separator = none)
    (width number : Nat)
    (rest : List Char) :
    numberBefore? separator (Digits.paddedText width number ++ separator :: rest) =
      some (number, rest) := by
  have digits :
      ∀ character ∈ Digits.paddedText width number, decide (character ≠ separator) = true := by
    intro character member
    obtain ⟨digit, isDigit⟩ := Digits.ofChar?_of_mem_paddedText member
    rw [decide_eq_true_iff]
    rintro rfl
    rw [apart] at isDigit
    contradiction
  have cut :
      (Digits.paddedText width number ++ separator :: rest).span (· ≠ separator) =
        (Digits.paddedText width number, separator :: rest) := by
    rw [List.span_eq_takeWhile_dropWhile, List.takeWhile_append_of_pos digits,
      List.dropWhile_append_of_pos digits]
    simp
  rw [numberBefore?, cut]
  simp [Digits.parse?_paddedText]

/-- What is printed is read back. -/
theorem read?_text (stamp : Timestamp) : read? stamp.text = some stamp := by
  simp only [read?, text, characters, String.toList_ofList, List.append_assoc, List.cons_append,
    Option.bind_eq_bind]
  have dash : Digits.ofChar? '-' = none := by decide
  have time : Digits.ofChar? 'T' = none := by decide
  have colon : Digits.ofChar? ':' = none := by decide
  have point : Digits.ofChar? '.' = none := by decide
  have zone : Digits.ofChar? 'Z' = none := by decide
  simp only [numberBefore?_paddedText dash, numberBefore?_paddedText time,
    numberBefore?_paddedText colon, numberBefore?_paddedText point,
    numberBefore?_paddedText zone, Option.bind_some]
  rfl

end Timestamp

namespace Moment

/-- The moment as a timestamp. -/
def stamp (moment : Moment) : Timestamp where
  date := moment.date.civil
  hour := (moment.seconds % secondsPerDay / 3600).toNat
  minute := (moment.seconds % secondsPerDay % 3600 / 60).toNat
  second := (moment.seconds % secondsPerDay % 60).toNat
  millis := moment.millis.toNat

theorem text_stamp (moment : Moment) : moment.text = moment.stamp.text :=
  rfl

/-- Days that have gone by. -/
theorem toNat_days (moment : Moment) :
    (moment.seconds / secondsPerDay).toNat = moment.seconds.toNat / 86400 :=
  UInt64.toNat_div _ _

/-- A word of seconds is far less than what the conversion can take. -/
theorem room_of_days (moment : Moment) :
    (moment.seconds / secondsPerDay).toNat + 719468 < 2 ^ 64 := by
  have bounded := moment.seconds.toNat_lt
  rw [moment.toNat_days]
  omega

/-- The date of a moment is as many days after the start of 1970 as have gone by. -/
theorem civil_date (moment : Moment) :
    moment.date.civil = CivilDate.next^[moment.seconds.toNat / 86400] .epoch := by
  rw [date, (Date.ofDays?_eq moment.room_of_days).2, CivilDate.ofNumber_eq_iterate,
    moment.toNat_days]

theorem stamp_eq (moment : Moment) :
    moment.stamp =
      { date := CivilDate.next^[moment.seconds.toNat / 86400] .epoch
        hour := moment.seconds.toNat % 86400 / 3600
        minute := moment.seconds.toNat % 86400 % 3600 / 60
        second := moment.seconds.toNat % 86400 % 60
        millis := moment.millis.toNat } := by
  simp [stamp, civil_date, secondsPerDay]

/-- The seconds that a timestamp counts are those of its moment. -/
theorem seconds_stamp (moment : Moment) : moment.stamp.seconds = moment.seconds.toNat := by
  have numbered := (CivilDate.iterate_next (moment.seconds.toNat / 86400)).2.2
  rw [stamp_eq, Timestamp.seconds, numbered]
  dsimp only
  omega

theorem stamp_inRange {moment : Moment} (inSecond : moment.millis < 1000) :
    moment.stamp.InRange := by
  rw [stamp_eq]
  exact
    { date := (CivilDate.iterate_next _).1
      hour := by dsimp only; omega
      minute := by dsimp only; omega
      second := Nat.mod_lt _ (by decide)
      millis := UInt32.lt_iff_toNat_lt.mp inSecond }

theorem stamp_injective {first second : Moment} (same : first.stamp = second.stamp) :
    first = second := by
  have seconds := congrArg Timestamp.seconds same
  have millis := congrArg Timestamp.millis same
  rw [seconds_stamp, seconds_stamp, UInt64.toNat_inj] at seconds
  have millis := UInt32.toNat_inj.mp millis
  cases first
  cases second
  simp_all

/--
The conversion starts with the first day of 1970, its dates follow one another as
the calendar has it, and no word of it wraps, as far as the shifted day count is a
word.  So for every moment none wraps, and the text is that of the date to which as
many days lead as the seconds hold, with a time of day; it is read back, and what is
read counts up to the seconds and milliseconds of this moment and of no other.
-/
theorem text_exact
    (moment : Moment)
    (inSecond : moment.millis < 1000) :
    (Date.ofDays 0).civil = .epoch ∧
      (∀ days : UInt64,
        days.toNat + 1 + Date.epochShift.toNat < 2 ^ 64 →
        Date.ofDays? days = some (Date.ofDays days) ∧
          (Date.ofDays (days + 1)).civil = (Date.ofDays days).civil.next) ∧
      Date.ofDays? (moment.seconds / secondsPerDay) = some moment.date ∧
      ∃ stamp : Timestamp,
        moment.text = stamp.text ∧
          Timestamp.read? moment.text = some stamp ∧
          stamp.date = CivilDate.next^[moment.seconds.toNat / 86400] .epoch ∧
          stamp.InRange ∧
          stamp.seconds = moment.seconds.toNat ∧
          stamp.millis = moment.millis.toNat ∧
          ∀ other : Moment, other.text = moment.text → other = moment := by
  refine ⟨by decide, fun days room => Date.ofDays_succ room,
    (Date.ofDays?_eq moment.room_of_days).1, moment.stamp, moment.text_stamp, ?_,
    moment.civil_date, stamp_inRange inSecond, moment.seconds_stamp, rfl, ?_⟩
  · exact Timestamp.read?_text moment.stamp
  · intro other same
    apply stamp_injective
    apply Option.some.inj
    rw [← Timestamp.read?_text, ← Timestamp.read?_text]
    exact congrArg Timestamp.read? same

/-- The seventh millisecond of a second of a leap day. -/
def leapDay : Moment := { seconds := 1709210096, millis := 7 }

theorem text_exact_leapDay :
    leapDay.millis < 1000 ∧
      leapDay.text = "2024-02-29T12:34:56.007Z" ∧
      ∃ stamp : Timestamp,
        Timestamp.read? leapDay.text = some stamp ∧
          stamp.date = CivilDate.next^[19782] .epoch ∧
          stamp.seconds = 1709210096 ∧
          ∀ other : Moment, other.text = leapDay.text → other = leapDay := by
  obtain ⟨-, -, -, stamp, -, reads, date, -, seconds, -, alone⟩ :=
    leapDay.text_exact (by decide)
  exact ⟨by decide, by decide +kernel, stamp, reads, date, seconds, alone⟩

end Moment

end LatchMutex
