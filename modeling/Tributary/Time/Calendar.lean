/-!
# The calendar

Days are counted from the first of January 1970 in the proleptic Gregorian calendar. A year is taken to
start in March, so that the leap day is its last day; the months of such a year follow one linear rule,
and four centuries always have the same number of days.

* `Date.dayNumber` : the day count of a date;
* `Date.ofDayNumber` : the date of a day count;
* `Date.isValid` : whether the month has the day.
-/

namespace Tributary.Time

/-- A date of the calendar, months and days from one. -/
structure Date where
  year : Int
  month : Int
  day : Int
deriving DecidableEq, Repr

def cycleDays : Int := 146097

/-- The first of March of the year 0 lies this many days before the epoch. -/
def epochShift : Int := 719468

def isLeapYear (y : Int) : Bool := (y % 4 == 0 && y % 100 != 0) || y % 400 == 0

def monthDays (y m : Int) : Int :=
  if m = 2 then (if isLeapYear y then 29 else 28)
  else if m = 4 ∨ m = 6 ∨ m = 9 ∨ m = 11 then 30
  else 31

namespace Date

def isValid (d : Date) : Bool :=
  decide (1 ≤ d.month ∧ d.month ≤ 12 ∧ 1 ≤ d.day ∧ d.day ≤ monthDays d.year d.month)

def dayNumber (d : Date) : Int :=
  let y := if d.month ≤ 2 then d.year - 1 else d.year
  let cycle := y / 400
  let yearOfCycle := y % 400
  let monthFromMarch := (d.month + 9) % 12
  let dayOfYear := (153 * monthFromMarch + 2) / 5 + d.day - 1
  let dayOfCycle := yearOfCycle * 365 + yearOfCycle / 4 - yearOfCycle / 100 + dayOfYear
  cycle * cycleDays + dayOfCycle - epochShift

def ofDayNumber (n : Int) : Date :=
  let z := n + epochShift
  let cycle := z / cycleDays
  let dayOfCycle := z % cycleDays
  let yearOfCycle :=
    (dayOfCycle - dayOfCycle / 1460 + dayOfCycle / 36524 - dayOfCycle / 146096) / 365
  let dayOfYear := dayOfCycle - (365 * yearOfCycle + yearOfCycle / 4 - yearOfCycle / 100)
  let monthFromMarch := (5 * dayOfYear + 2) / 153
  let day := dayOfYear - (153 * monthFromMarch + 2) / 5 + 1
  let month := if monthFromMarch < 10 then monthFromMarch + 3 else monthFromMarch - 9
  ⟨yearOfCycle + cycle * 400 + (if month ≤ 2 then 1 else 0), month, day⟩

/-- The number of the day in its year, from one. -/
def ordinal (d : Date) : Int := d.dayNumber - dayNumber ⟨d.year, 1, 1⟩ + 1

/-- The day of the week, from Sunday as zero. -/
def weekday (d : Date) : Int := (d.dayNumber + 4) % 7

/-- The day of the week, from Monday as zero. -/
def weekdayFromMonday (d : Date) : Int := (d.dayNumber + 3) % 7

/-- The Thursday of a day's week, Mondays starting weeks. Its year is the year of the week. -/
def thursday (d : Date) : Date := ofDayNumber (d.dayNumber + 3 - d.weekdayFromMonday)

/-- The year to which a day's week belongs. -/
def weekYear (d : Date) : Int := d.thursday.year

/-- The number of a day's week in the year to which it belongs, from one. -/
def week (d : Date) : Int := (d.thursday.ordinal - 1) / 7 + 1

end Date

end Tributary.Time
