import CommitHeader.Calendar.Instant
import CommitHeader.Calendar.Offset

/-!
# Dates in mail headers

The date form of RFC 2822, with the day of the month not filled up. It has four places for the year
and so no text for a year before 0 or after 9999.
-/

namespace CommitHeader.Calendar.MailDate

open Text.Decimal in
/-- A time in the form of RFC 2822, if its year has four places. -/
def write? (t : LocalTime) : Option String :=
  if 0 ≤ t.date.year ∧ t.date.year ≤ 9999 then
    let two := twoPlaces .zeros
    some (String.ofList (abbreviated (weekdayName t.date.weekday) ++ [',', ' '] ++
      digits t.date.day ++ [' '] ++ abbreviated (monthName t.date.month) ++ [' '] ++
      zeroFilled 4 t.date.year.toNat ++ [' '] ++ two t.hour ++ [':'] ++ two t.minute ++ [':'] ++
      two t.second ++ [' '] ++ OffsetForm.compact.write t.offset))
  else none

end CommitHeader.Calendar.MailDate
