import CommitHeader.Calendar.MailDate
import CommitHeader.Calendar.Pattern
import CommitHeader.Calendar.Span

/-!
# Date texts

A date is shown relative to a reference time and, in parentheses, as a pattern writes it at an
offset. Where the pattern cannot be written the mail form takes its place, and where that has no
text either there is no date text at all.
-/

namespace CommitHeader.Calendar

/-- The pattern of dates unless another one is configured: a long date and a long time. -/
def defaultPattern : String := "%A, %B %-d, %Y %-I:%M:%S %p"

/-- How dates are shown: a pattern, and the offset at which calendar and clock are read. -/
structure DateStyle where
  pattern : String := defaultPattern
  offset : Int := 0
deriving DecidableEq

/-- How far a date lies from a reference time, in whole seconds cut down. The date lies ahead if less
than no time has passed since, be it by a part of a second. -/
def relativeText (now : Instant) (t : Timestamp) : String :=
  let passed := now.since t.instant
  let span := (Span.ofSeconds (passed.natAbs / 1000000000)).text
  if passed < 0 then "in " ++ span else span ++ " ago"

namespace DateStyle

/-- The date and time of a date: as the pattern writes it, or else in the mail form. -/
def absolute? (style : DateStyle) (t : Timestamp) : Option String :=
  let shown := t.instant.atOffset style.offset
  match Pattern.write? style.pattern shown with
  | some text => some text
  | none => MailDate.write? shown

/-- The full date text: how far the date lies from `now`, and its date and time. -/
def text? (style : DateStyle) (now : Instant) (t : Timestamp) : Option String :=
  (style.absolute? t).map fun absolute => relativeText now t ++ " (" ++ absolute ++ ")"

end DateStyle

end CommitHeader.Calendar
