import CommitHeader.Calendar.Instant
import CommitHeader.Proofs.Calendar.Civil
import Mathlib

/-!
# What calendar and clock show

A point in time is shown at an offset as the day, the time of day and the part of a second that make
it up again. The day is one that there is, and has its place in its month, its year and its week.
-/

namespace CommitHeader.Calendar

namespace CivilDate

/-- The number of the Thursday of the week. -/
def thursdayNumber (date : CivilDate) : Int :=
  date.number - date.weekday + 3

/-- A date that there is: its month and day of the month make up its place in the year, and its
weekday follows from its number. Its week belongs to the year of its Thursday, and is told by the
number of Thursdays in this year up to then. -/
structure IsDate (date : CivilDate) : Prop where
  month : 1 ≤ date.month ∧ date.month ≤ 12
  day : 1 ≤ date.day ∧ date.day ≤ (monthLengths (isLeap date.year)).getD (date.month - 1) 0
  dayOfYear : date.dayOfYear =
    ((monthLengths (isLeap date.year)).take (date.month - 1)).sum + date.day
  weekday : (date.weekday : Int) = date.number % 7
  weekYear : daysBefore date.weekYear ≤ date.thursdayNumber ∧
    date.thursdayNumber < daysBefore date.weekYear + (monthLengths (isLeap date.weekYear)).sum
  week : daysBefore date.weekYear + 7 * (date.week - 1) ≤ date.thursdayNumber ∧
    date.thursdayNumber < daysBefore date.weekYear + 7 * date.week

theorem isDate_ofNumber (number : Int) : (ofNumber number).IsDate where
  month := month_ofNumber number
  day := day_ofNumber number
  dayOfYear := dayOfYear_ofNumber number
  weekday := weekday_ofNumber number
  weekYear := by
    have hyear : (ofNumber number).weekYear = (yearOf (ofNumber number).thursdayNumber).1 := rfl
    have hthursday := daysBefore_add_passed (ofNumber number).thursdayNumber
    have hpassed := passed_lt_sum (ofNumber number).thursdayNumber
    rw [hyear]
    omega
  week := by
    have hyear : (ofNumber number).weekYear = (yearOf (ofNumber number).thursdayNumber).1 := rfl
    have hweek : (ofNumber number).week = (yearOf (ofNumber number).thursdayNumber).2 / 7 + 1 := rfl
    have hthursday := daysBefore_add_passed (ofNumber number).thursdayNumber
    rw [hyear, hweek]
    omega

theorem IsDate.weekday_lt {date : CivilDate} (h : date.IsDate) : date.weekday < 7 := by
  have hweekday := h.weekday
  omega

theorem IsDate.day_le {date : CivilDate} (h : date.IsDate) : date.day ≤ 31 := by
  have hlengths : ∀ leap, ∀ month < 12, (monthLengths leap).getD month 0 ≤ 31 := by decide
  have hmonth := h.month
  exact h.day.2.trans (hlengths _ _ (by omega))

end CivilDate

namespace LocalTime

/-- A point in time as it is shown at an offset. The number of the day, the time of day and the part
of a second make up the nanoseconds that have passed there since the start of 1970. The clock shows
a second of a minute, or in a leap second the one after it. -/
structure Shows (shown : LocalTime) (t : Instant) (offset : Int) : Prop where
  date : shown.date.IsDate
  nanoseconds : t.nanoseconds + offset * 1000000000 =
    (86400 * (shown.date.number - Instant.epochDay) + 3600 * shown.hour + 60 * shown.minute +
      shown.second) * 1000000000 + shown.fraction
  hour : shown.hour < 24
  minute : shown.minute < 60
  second : if t.inLeapSecond then 1 ≤ shown.second ∧ shown.second ≤ 60 else shown.second < 60
  fraction : shown.fraction < 1000000000
  unixSeconds : shown.unixSeconds = t.seconds
  offset : shown.offset = offset

variable {shown : LocalTime} {t : Instant} {offset : Int}

/-- Outside leap seconds the day and the time of day at an offset give the second back. -/
theorem Shows.seconds_eq (h : shown.Shows t offset) (hleap : t.inLeapSecond = false) :
    t.seconds = 86400 * (shown.date.number - Instant.epochDay) + 3600 * shown.hour +
      60 * shown.minute + shown.second - offset := by
  have hnanoseconds := h.nanoseconds
  have hfraction := h.fraction
  unfold Instant.inLeapSecond at hleap
  unfold Instant.nanoseconds at hnanoseconds
  rw [decide_eq_false_iff_not] at hleap
  omega

theorem Shows.second_le (h : shown.Shows t offset) : shown.second ≤ 60 := by
  have hsecond := h.second
  split_ifs at hsecond <;> omega

end LocalTime

namespace Instant

theorem secondOfDay_atOffset (t : Instant) (offset : Int) :
    ((t.atOffset offset).secondOfDay : Int) = (t.seconds + offset) % 86400 := by
  have hsecond : (t.atOffset offset).secondOfDay = ((t.seconds + offset) % 86400).toNat := rfl
  rw [hsecond]
  omega

theorem number_atOffset (t : Instant) (offset : Int) :
    (t.atOffset offset).date.number = (t.seconds + offset) / 86400 + epochDay :=
  CivilDate.number_ofNumber _

theorem shows_atOffset (t : Instant) (offset : Int) : (t.atOffset offset).Shows t offset := by
  have hnumber := number_atOffset t offset
  have hsecond := secondOfDay_atOffset t offset
  have hnanosecond : (t.atOffset offset).nanosecond = t.nanosecond := rfl
  have hlt := t.nanosecond.isLt
  refine ⟨CivilDate.isDate_ofNumber _, ?_, ?_, ?_, ?_, ?_, rfl, rfl⟩
  · unfold nanoseconds LocalTime.hour LocalTime.minute LocalTime.second LocalTime.fraction
    omega
  · unfold LocalTime.hour
    omega
  · unfold LocalTime.minute
    omega
  · unfold LocalTime.second inLeapSecond
    rw [hnanosecond]
    simp only [decide_eq_true_eq]
    split_ifs <;> omega
  · exact Nat.mod_lt _ (by decide)

end Instant

end CommitHeader.Calendar
