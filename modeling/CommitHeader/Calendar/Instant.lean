import CommitHeader.Calendar.Civil

/-!
# Points in time

A point in time is a number of seconds since the start of 1970 in Universal Time and a part of a
second. The seconds are those of days without leap seconds; a leap second belongs to the second that
it follows, which is then twice as long. Shown at an offset from Universal Time a point in time has a
civil date and a time of day.
-/

namespace CommitHeader.Calendar

/-- The nanosecond at which a second begins. -/
def fullSecond : Fin 2000000000 := ⟨0, Nat.zero_lt_succ _⟩

structure Instant where
  seconds : Int
  /-- From a thousand million on the point lies in a leap second. -/
  nanosecond : Fin 2000000000 := fullSecond
deriving DecidableEq

namespace Instant

/-- The nanoseconds since the start of 1970. Those of a leap second are also those of the second
after it. -/
def nanoseconds (t : Instant) : Int :=
  t.seconds * 1000000000 + (t.nanosecond : Nat)

/-- Whether a point in time lies in a leap second. -/
def inLeapSecond (t : Instant) : Bool :=
  1000000000 ≤ (t.nanosecond : Nat)

/-- The seconds of the day that have passed, in Universal Time. -/
def secondOfDay (t : Instant) : Int :=
  t.seconds % 86400

/-- The nanoseconds that have passed since another point in time. There are no leap seconds in
between, save one that an end lies in: it counts if the other end has the later time of day. -/
def since (t start : Instant) : Int :=
  let leap : Int :=
    if start.secondOfDay < t.secondOfDay ∧ start.inLeapSecond then 1000000000
    else if t.secondOfDay < start.secondOfDay ∧ t.inLeapSecond then -1000000000
    else 0
  t.nanoseconds - start.nanoseconds + leap

/-- The number of the first of January 1970. -/
def epochDay : Int := 719162

/-- The first second that has a date: the start of the year -262143. -/
def firstSecond : Int := -8334601228800

/-- The last second that has a date: the end of the year 262142. -/
def lastSecond : Int := 8210266876799

/-- Whether a count of seconds lies within the range of dates. -/
def inRange (seconds : Int) : Bool :=
  firstSecond ≤ seconds && seconds ≤ lastSecond

end Instant

/-- A point in time together with the offset, in seconds east of Universal Time, that it was
recorded at. -/
structure Timestamp where
  instant : Instant
  offset : Int := 0
deriving DecidableEq

/-- A point in time by itself is recorded in Universal Time. -/
instance : Coe Instant Timestamp where
  coe t := { instant := t }

/-- A point in time as a calendar and a clock show it at an offset. -/
structure LocalTime where
  date : CivilDate
  /-- The seconds of the day that have passed, without a leap second. -/
  secondOfDay : Nat
  /-- The part of the second, from a thousand million on in a leap second. -/
  nanosecond : Nat
  unixSeconds : Int
  offset : Int
deriving DecidableEq

def Instant.atOffset (t : Instant) (offset : Int) : LocalTime :=
  let shown := t.seconds + offset
  { date := CivilDate.ofNumber (shown / 86400 + Instant.epochDay)
    secondOfDay := (shown % 86400).toNat
    nanosecond := t.nanosecond
    unixSeconds := t.seconds
    offset }

namespace LocalTime

/-- The hour, from 0 to 23. -/
def hour (t : LocalTime) : Nat := t.secondOfDay / 3600

/-- The hour on a twelve-hour clock, from 1 to 12. -/
def hour12 (t : LocalTime) : Nat :=
  if t.hour % 12 = 0 then 12 else t.hour % 12

/-- Whether it is noon or later. -/
def isAfternoon (t : LocalTime) : Bool := 12 ≤ t.hour

def minute (t : LocalTime) : Nat := t.secondOfDay / 60 % 60

/-- The second; in a leap second the clock shows one more. -/
def second (t : LocalTime) : Nat := t.secondOfDay % 60 + t.nanosecond / 1000000000

/-- The nanoseconds of the second that the clock shows. -/
def fraction (t : LocalTime) : Nat := t.nanosecond % 1000000000

end LocalTime

end CommitHeader.Calendar
