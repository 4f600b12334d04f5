/-!
# Civil dates

The proleptic Gregorian calendar over all years, with a year zero and negative years before it. Days
are numbered from the first of January of the year one, which is a Monday; every number is one date,
and the date gives the number back.
-/

namespace CommitHeader.Calendar

/-- Whether a year has 366 days. -/
def isLeap (year : Int) : Bool :=
  year % 4 = 0 && (year % 100 ≠ 0 || year % 400 = 0)

def monthLengths (leap : Bool) : List Nat :=
  [31, if leap then 29 else 28, 31, 30, 31, 30, 31, 31, 30, 31, 30, 31]

/-- The number of the first day of a year. -/
def daysBefore (year : Int) : Int :=
  365 * (year - 1) + (year - 1) / 4 - (year - 1) / 100 + (year - 1) / 400

/-- The month and day that lie `rest` days after the start of the month numbered `month`, given the
lengths of that month and of those after it. -/
def monthAndDay (month : Nat) : List Nat → Nat → Nat × Nat
  | [], rest => (month, rest + 1)
  | length :: lengths, rest =>
      if rest < length then (month, rest + 1)
      else monthAndDay (month + 1) lengths (rest - length)

/-- A day: its year, its place in the year counted from one, its month and day of the month, and its
weekday counted from Monday as zero. -/
structure CivilDate where
  year : Int
  dayOfYear : Nat
  month : Nat
  day : Nat
  weekday : Nat
deriving DecidableEq

/-- The year of a day and the days that have passed in it. Four hundred years, a hundred years and
four years are taken off in turn. -/
def yearOf (number : Int) : Int × Nat :=
  let inCycle := (number % 146097).toNat
  -- The last hundred of a cycle and the last year of four may be longer by a day.
  let hundreds := min (inCycle / 36524) 3
  let inHundred := inCycle - 36524 * hundreds
  let fours := inHundred / 1461
  let inFour := inHundred - 1461 * fours
  let ones := min (inFour / 365) 3
  (400 * (number / 146097) + 100 * hundreds + 4 * fours + ones + 1, inFour - 365 * ones)

/-- The date with a number. -/
def CivilDate.ofNumber (number : Int) : CivilDate :=
  let (year, passed) := yearOf number
  let (month, day) := monthAndDay 1 (monthLengths (isLeap year)) passed
  ⟨year, passed + 1, month, day, (number % 7).toNat⟩

namespace CivilDate

def number (date : CivilDate) : Int :=
  daysBefore date.year + (date.dayOfYear - 1 : Nat)

/-- The quarter of the year, from one. -/
def quarter (date : CivilDate) : Nat :=
  (date.month - 1) / 3 + 1

/-- The weekday counted from Sunday as zero. -/
def weekdayFromSunday (date : CivilDate) : Nat :=
  (date.weekday + 1) % 7

/-- The week of the year when weeks start on Sunday; the days before the first Sunday are in week
zero. -/
def weekFromSunday (date : CivilDate) : Nat :=
  (date.dayOfYear + 6 - date.weekdayFromSunday) / 7

/-- The week of the year when weeks start on Monday; the days before the first Monday are in week
zero. -/
def weekFromMonday (date : CivilDate) : Nat :=
  (date.dayOfYear + 6 - date.weekday) / 7

/-- The Thursday of the week of a date, as its year and the days that have passed in it. -/
def thursday (date : CivilDate) : Int × Nat :=
  yearOf (date.number - date.weekday + 3)

/-- The year that the week of a date belongs to: the year of its Thursday. -/
def weekYear (date : CivilDate) : Int :=
  date.thursday.1

/-- The number of the week in its year: one more than there are Thursdays before its own. -/
def week (date : CivilDate) : Nat :=
  date.thursday.2 / 7 + 1

end CivilDate

/-- The names of the weekdays, from Monday. -/
def weekdayNames : List String :=
  ["Monday", "Tuesday", "Wednesday", "Thursday", "Friday", "Saturday", "Sunday"]

def monthNames : List String :=
  ["January", "February", "March", "April", "May", "June", "July", "August", "September",
    "October", "November", "December"]

def weekdayName (weekday : Nat) : List Char :=
  (weekdayNames.getD weekday "").toList

def monthName (month : Nat) : List Char :=
  (monthNames.getD (month - 1) "").toList

/-- The first three letters of a name. -/
def abbreviated (name : List Char) : List Char :=
  name.take 3

end CommitHeader.Calendar
