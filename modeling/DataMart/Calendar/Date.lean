import DataMart.Text.Joined

/-!
# Dates

Dates of the Gregorian calendar, carried backwards without a gap: there is a year 0, and years
before it are negative. A `Date` is a day that exists, so nobody meets a 30th of February. The text
of a date has four digits for the years 0 to 9999 and a sign in front of every other year.
-/

namespace DataMart.Calendar

/-- Whether a year has a 29th of February. -/
def isLeap (year : Int) : Bool := year % 4 = 0 && (year % 100 ≠ 0 || year % 400 = 0)

/-- How many days a month has; 0 for a number that is no month. -/
def daysInMonth (year : Int) (month : Nat) : Nat :=
  match month with
  | 1 | 3 | 5 | 7 | 8 | 10 | 12 => 31
  | 4 | 6 | 9 | 11 => 30
  | 2 => if isLeap year then 29 else 28
  | _ => 0

/-- The first and the last year that a date may lie in. -/
def firstYear : Int := -262143

@[inherit_doc firstYear]
def lastYear : Int := 262142

/-- Whether a year, a month and a day name a day. -/
def isDay (year : Int) (month day : Nat) : Bool :=
  firstYear ≤ year && year ≤ lastYear && 1 ≤ day && day ≤ daysInMonth year month

/-- A day of the calendar. -/
structure Date where
  year : Int
  month : Nat
  day : Nat
  isDay : Calendar.isDay year month day = true
  deriving DecidableEq

/-- The date with the given parts, if there is such a day. -/
def Date.ofParts? (year : Int) (month day : Nat) : Option Date :=
  if h : Calendar.isDay year month day = true then some ⟨year, month, day, h⟩ else none

/-- A year in text: four digits at least, with a sign outside 0 to 9999. -/
def yearText (year : Int) : String :=
  if 0 ≤ year ∧ year ≤ 9999 then Text.zeroPadded 4 year.toNat
  else (if year < 0 then "-" else "+") ++ Text.zeroPadded 4 year.natAbs

/-- A date in text, year first. -/
def Date.text (d : Date) : String :=
  yearText d.year ++ "-" ++ Text.zeroPadded 2 d.month ++ "-" ++ Text.zeroPadded 2 d.day

/-- How many days a year has. -/
def daysInYear (year : Int) : Nat := if isLeap year then 366 else 365

/-- Days from the start of year 1 to the start of a year; negative for earlier years. -/
def daysBeforeYear (year : Int) : Int :=
  let y := year - 1
  365 * y + y.fdiv 4 - y.fdiv 100 + y.fdiv 400

/-- Days of the year before the given month. -/
def daysBeforeMonth (year : Int) : Nat → Nat
  | 0 => 0
  | month + 1 => daysBeforeMonth year month + daysInMonth year month

/-- The number of a day, counted from the first of January of year 1. -/
def Date.dayNumber (d : Date) : Int :=
  daysBeforeYear d.year + daysBeforeMonth d.year d.month + d.day - 1

/-- Walk through the months from `month` on with `rest` days to go. -/
def monthAndDay (year : Int) : (tries month rest : Nat) → Nat × Nat
  | 0, month, rest => (month, rest + 1)
  | tries + 1, month, rest =>
    if rest < daysInMonth year month then (month, rest + 1)
    else monthAndDay year tries (month + 1) (rest - daysInMonth year month)

/-- The date with a given number, if it lies in a year that dates may lie in. A first guess at the
year from the mean length of a year is off by one at most. -/
def Date.ofDayNumber? (n : Int) : Option Date :=
  let guess := (n * 400).fdiv 146097 + 1
  let year :=
    if n < daysBeforeYear guess then guess - 1
    else if daysBeforeYear (guess + 1) ≤ n then guess + 1
    else guess
  let (month, day) := monthAndDay year 11 1 (n - daysBeforeYear year).toNat
  Date.ofParts? year month day

/-- The date some days later. -/
def Date.addDays? (d : Date) (days : Int) : Option Date := Date.ofDayNumber? (d.dayNumber + days)

/-- Exactly the days that exist are dates. -/
theorem Date.ofParts?_isSome (year : Int) (month day : Nat) :
    (Date.ofParts? year month day).isSome = Calendar.isDay year month day := by
  unfold Date.ofParts?
  split <;> simp_all

end DataMart.Calendar
