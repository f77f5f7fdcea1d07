/-!
# `AccessGateway.Time.Calendar`: days and dates

The Gregorian calendar without beginning or end: day 0 is the first of January of the year 0,
and every year that 4 divides is a leap year unless 100 divides it and 400 does not.
`Date.ofDay` and `Date.dayNumber` go between a day's number and its date.

Numbers of days are integers, so a date before the year 0 is computed like any other. The year of a
day is guessed from the mean length of a year and put right by comparing with the first days of the
years around it. Within the year the months are taken off one by one.
-/

set_option autoImplicit false

namespace AccessGateway.Time

/-- Whether February has 29 days in this year. -/
def isLeapYear (year : Int) : Bool := year % 4 == 0 && (year % 100 != 0 || year % 400 == 0)

/-- The number of the first day of a year. The three quotients count the leap years before it, and
are rounded down for years before 0 too. -/
def firstDay (year : Int) : Int :=
  365 * year + (year + 3) / 4 - (year + 99) / 100 + (year + 399) / 400

/-- The lengths of the twelve months of a year. -/
def monthLengths (leap : Bool) : List Nat :=
  [31, if leap then 29 else 28, 31, 30, 31, 30, 31, 31, 30, 31, 30, 31]

/-- The year that a day belongs to. The mean length of a year gives a guess that is at most
one year off. -/
def yearOfDay (day : Int) : Int :=
  let guess := day * 400 / 146097
  if day < firstDay guess then guess - 1
  else if firstDay (guess + 1) ≤ day then guess + 1
  else guess

/-- A calendar date; month and day of the month count from one. Not every one of these is in the
calendar (`Date.isValid`). -/
structure Date where
  year : Int
  month : Nat
  day : Nat
  deriving DecidableEq, Repr

/-- How many whole months fit in front of a day of the year, and the day within its month,
both from zero. -/
def splitMonths : List Nat → Nat → Nat × Nat
  | [], day => (0, day)
  | length :: rest, day =>
    if day < length then (0, day)
    else
      let (month, within) := splitMonths rest (day - length)
      (month + 1, within)

/-- The date of a day. Every day has one, and it is in the calendar. -/
def Date.ofDay (day : Int) : Date :=
  let year := yearOfDay day
  let (month, within) := splitMonths (monthLengths (isLeapYear year)) (day - firstDay year).toNat
  ⟨year, month + 1, within + 1⟩

/-- The number of days in the month of a date, or zero if there is no such month. -/
def monthLength (year : Int) (month : Nat) : Nat :=
  (monthLengths (isLeapYear year))[month - 1]?.getD 0

/-- Whether the calendar has this date. -/
def Date.isValid (date : Date) : Bool :=
  1 ≤ date.month && date.month ≤ 12 && 1 ≤ date.day &&
    date.day ≤ monthLength date.year date.month

/-- The number of the day of a date. Of a date that is not in the calendar it is of no meaning. -/
def Date.dayNumber (date : Date) : Int :=
  let months := (monthLengths (isLeapYear date.year)).take (date.month - 1)
  let before : Nat := months.foldl (· + ·) 0
  firstDay date.year + before + (date.day - 1)

end AccessGateway.Time
