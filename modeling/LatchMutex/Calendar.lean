import LatchMutex.Digits

namespace LatchMutex

/-!
# Calendar time

A moment is a count of seconds since the start of 1970 and a count of
milliseconds.  Its text is the date and time of the proleptic Gregorian calendar
in universal time.  The conversion counts years from March, in eras of 400 years
that all have the same number of days.
-/

/-- A date of the Gregorian calendar. -/
structure Date where
  year : UInt64
  month : UInt64
  day : UInt64
  deriving Repr, DecidableEq, Inhabited

namespace Date

/-- Days from the first of March of the year 0 to the start of 1970. -/
def epochShift : UInt64 := 719468

/-- Days of an era of 400 years. -/
def daysPerEra : UInt64 := 146097

/-- Date that lies a number of days after the start of 1970. -/
def ofDays (days : UInt64) : Date :=
  let shifted := days + epochShift
  let era := shifted / daysPerEra
  let dayOfEra := shifted % daysPerEra
  let yearOfEra :=
    (dayOfEra - dayOfEra / 1460 + dayOfEra / 36524 - dayOfEra / 146096) / 365
  let dayOfYear := dayOfEra - (365 * yearOfEra + yearOfEra / 4 - yearOfEra / 100)
  let monthFromMarch := (5 * dayOfYear + 2) / 153
  let day := dayOfYear - (153 * monthFromMarch + 2) / 5 + 1
  let month := if monthFromMarch < 10 then monthFromMarch + 3 else monthFromMarch - 9
  let year := yearOfEra + era * 400 + if month ≤ 2 then 1 else 0
  { year, month, day }

end Date

/-- A moment since the start of 1970. -/
structure Moment where
  seconds : UInt64 := 0
  millis : UInt32 := 0
  deriving Repr, DecidableEq, Inhabited

namespace Moment

/-- Seconds of a day. -/
def secondsPerDay : UInt64 := 86400

/-- The moment a clock shows; one before 1970 counts as the start of 1970. -/
def ofClock (seconds : Int) (nanos : Nat) : Moment :=
  if seconds < 0 then
    {}
  else
    { seconds := seconds.toNat.toUInt64, millis := (nanos / 1000000).toUInt32 }

/-- Date of the moment. -/
def date (moment : Moment) : Date :=
  Date.ofDays (moment.seconds / secondsPerDay)

/-- Digits of a number in a field of the text. -/
def field (width : Nat) (value : UInt64) : List Char :=
  Digits.paddedText width value.toNat

/-- Text of the moment, to the millisecond. -/
def characters (moment : Moment) : List Char :=
  let date := moment.date
  let rest := moment.seconds % secondsPerDay
  field 4 date.year ++ '-' :: field 2 date.month ++ '-' :: field 2 date.day
    ++ 'T' :: field 2 (rest / 3600) ++ ':' :: field 2 (rest % 3600 / 60)
    ++ ':' :: field 2 (rest % 60) ++ '.' :: Digits.paddedText 3 moment.millis.toNat ++ ['Z']

/-- Text of the moment, to the millisecond. -/
def text (moment : Moment) : String :=
  String.ofList moment.characters

end Moment

end LatchMutex
