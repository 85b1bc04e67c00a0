/-!
# Points in time

A point in time is counted from the start of 1970 in coordinated universal time. Its calendar date
is the Gregorian one, extended to all years.

## Implementation notes

A leap second is the second before it, with at least `10 ^ 9` nanoseconds. Days are counted in
periods of 400 years that begin with March, so that a leap day is the last day of its year.
-/

namespace ScalingMetrics

/-- Seconds since 1970 and nanoseconds beyond; a leap second has more than `10 ^ 9` of these. -/
structure Timestamp where
  seconds : Int
  nanos : Nat
deriving DecidableEq

/-- A calendar date. -/
structure Date where
  year : Int
  month : Nat
  day : Nat
deriving DecidableEq

namespace Date

/-- A year with a leap day. -/
def isLeapYear (year : Int) : Bool :=
  year % 4 == 0 && (year % 100 != 0 || year % 400 == 0)

/-- The number of days of a month. -/
def daysInMonth (year : Int) (month : Nat) : Nat :=
  if month = 2 then if isLeapYear year then 29 else 28
  else if month = 4 ∨ month = 6 ∨ month = 9 ∨ month = 11 then 30
  else 31

/-- The date exists. -/
def isValid (d : Date) : Bool :=
  1 ≤ d.month && d.month ≤ 12 && 1 ≤ d.day && d.day ≤ daysInMonth d.year d.month

/-- The number of days from the start of 1970. -/
def toDays (d : Date) : Int :=
  let year := if d.month ≤ 2 then d.year - 1 else d.year
  let period := year / 400
  let yearOfPeriod := year - period * 400
  let month : Int := if d.month ≤ 2 then d.month + 9 else d.month - 3
  let dayOfYear := (153 * month + 2) / 5 + d.day - 1
  let dayOfPeriod := yearOfPeriod * 365 + yearOfPeriod / 4 - yearOfPeriod / 100 + dayOfYear
  period * 146097 + dayOfPeriod - 719468

/-- The date a number of days from the start of 1970. -/
def ofDays (days : Int) : Date :=
  let shifted := days + 719468
  let period := shifted / 146097
  let dayOfPeriod := shifted - period * 146097
  let yearOfPeriod :=
    (dayOfPeriod - dayOfPeriod / 1460 + dayOfPeriod / 36524 - dayOfPeriod / 146096) / 365
  let dayOfYear := dayOfPeriod - (365 * yearOfPeriod + yearOfPeriod / 4 - yearOfPeriod / 100)
  let month := (5 * dayOfYear + 2) / 153
  let day := dayOfYear - (153 * month + 2) / 5 + 1
  let calendarMonth := if month < 10 then month + 3 else month - 9
  let year := yearOfPeriod + period * 400
  ⟨if calendarMonth ≤ 2 then year + 1 else year, calendarMonth.toNat, day.toNat⟩

end Date

namespace Timestamp

/-- The start of 1970. -/
def epoch : Timestamp := ⟨0, 0⟩

/-- The first year that a point in time can lie in. -/
def firstYear : Int := -262143

/-- The last year that a point in time can lie in. -/
def lastYear : Int := 262142

/-- The seconds of the first representable point in time. -/
def firstSecond : Int := Date.toDays ⟨firstYear, 1, 1⟩ * 86400

/-- The seconds of the last representable point in time. -/
def lastSecond : Int := Date.toDays ⟨lastYear, 12, 31⟩ * 86400 + 86399

end Timestamp

end ScalingMetrics
