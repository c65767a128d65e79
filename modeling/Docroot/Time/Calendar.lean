import Docroot.Time.Instant

/-!
# The Gregorian calendar

Days and dates, forward and back, for all years, also those before the calendar was used.

Years are counted from March here, so that a leap day is the last day of its year. Then four cycles
nest: 400 years have 146097 days, a century 36524, four years 1461, a year 365; the last century of
the 400 and the last year of the four are one day longer. A day number is taken apart by these
cycles, and put together again by the same numbers.

Dates are kept for the years -262143 to 262142. An instant outside them has no date
(`OutOfRange`).
-/

namespace Docroot.Time

/-- A date: year (0 is the year before 1), month from 1, day from 1. -/
structure Date where
  year : Int
  month : Nat
  day : Nat
  deriving DecidableEq, Repr

/-! ## 1. Days to dates -/

/-- Days from 0000-03-01 to 1970-01-01. -/
def epochShift : Int := 719468

/-- A day's place in the cycles: 400-year cycle, century in it, four years in it, year in it, day
    of the year from 1 March. -/
structure CycleDay where
  cycle : Int
  century : Nat
  olympiad : Nat
  year : Nat
  day : Nat

/-- The cycles of a day number counted from 1970-01-01. -/
def cycleDay (n : Int) : CycleDay :=
  let shifted := n + epochShift
  let inCycle := (shifted % 146097).toNat
  let century := min (inCycle / 36524) 3
  let inCentury := inCycle - century * 36524
  let olympiad := inCentury / 1461
  let inOlympiad := inCentury - olympiad * 1461
  let year := min (inOlympiad / 365) 3
  ⟨shifted / 146097, century, olympiad, year, inOlympiad - year * 365⟩

/-- The month, counted from March as 0, and the day of the month, from a day of the year counted
    from 1 March. -/
def monthDay (dayOfYear : Nat) : Nat × Nat :=
  let m := (5 * dayOfYear + 2) / 153
  (m, dayOfYear - (153 * m + 2) / 5 + 1)

/-- **The date of a day number** counted from 1970-01-01. -/
def Date.ofDays (n : Int) : Date :=
  let c := cycleDay n
  let (m, day) := monthDay c.day
  let marchYear := c.cycle * 400 + (c.century * 100 + c.olympiad * 4 + c.year : Nat)
  if m < 10 then ⟨marchYear, m + 3, day⟩ else ⟨marchYear + 1, m - 9, day⟩

/-! ## 2. Dates to days -/

/-- **The day number of a date**, counted from 1970-01-01. -/
def Date.toDays (d : Date) : Int :=
  let marchYear := if d.month ≤ 2 then d.year - 1 else d.year
  let m := if d.month ≤ 2 then d.month + 9 else d.month - 3
  let inCycle := (marchYear % 400).toNat
  let dayOfYear := (153 * m + 2) / 5 + d.day - 1
  marchYear / 400 * 146097
    + (inCycle * 365 + inCycle / 4 - inCycle / 100 + dayOfYear : Nat) - epochShift

/-- A year of 366 days. -/
def isLeapYear (y : Int) : Bool := y % 4 == 0 && (y % 100 != 0 || y % 400 == 0)

/-- The number of days of a month. -/
def monthLength (year : Int) (month : Nat) : Nat :=
  if month = 2 then (if isLeapYear year then 29 else 28)
  else if month = 4 ∨ month = 6 ∨ month = 9 ∨ month = 11 then 30 else 31

/-- The earliest and the latest year that dates are kept for. -/
def firstYear : Int := -262143
/-- See `firstYear`. -/
def lastYear : Int := 262142

/-- A date of the calendar, in a year that dates are kept for. -/
def Date.isValid (d : Date) : Bool :=
  firstYear ≤ d.year && d.year ≤ lastYear && 1 ≤ d.month && d.month ≤ 12
    && 1 ≤ d.day && d.day ≤ monthLength d.year d.month

/-- The day of the week of a day number: 0 is Sunday. -/
def weekday (n : Int) : Nat := ((n + 4) % 7).toNat

/-! ## 3. The time of day -/

/-- A date and a time of day. -/
structure Civil where
  date : Date
  weekday : Nat
  hour : Nat
  minute : Nat
  second : Nat
  deriving DecidableEq, Repr

/-- The date and time of day of a number of seconds since 1970. -/
def Civil.ofSecs (secs : Int) : Civil :=
  let days := secs / 86400
  let t := (secs % 86400).toNat
  ⟨Date.ofDays days, Time.weekday days, t / 3600, t / 60 % 60, t % 60⟩

/-- The seconds since 1970 of a date and a time of day. -/
def secsOf (d : Date) (hour minute second : Nat) : Int :=
  d.toDays * 86400 + (hour * 3600 + minute * 60 + second : Nat)

/-! ## 4. What has a date -/

/-- An instant beyond the years that dates are kept for. -/
inductive OutOfRange where
  | outOfRange
  deriving DecidableEq, Repr

/-- The first second of the first year and the last second of the last. -/
def firstSecond : Int := -8334601228800
/-- See `firstSecond`. -/
def lastSecond : Int := 8210266876799

/-- The instant lies in the years that dates are kept for. -/
def Instant.hasDate (t : Instant) : Bool := firstSecond ≤ t.secs && t.secs ≤ lastSecond

/-- An instant that has a date, rounded down to the second; an error for any other. -/
def Instant.toSeconds (t : Instant) : Except OutOfRange Instant :=
  if t.hasDate then .ok t.floor else .error .outOfRange

end Docroot.Time
