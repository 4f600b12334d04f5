/-!
# Spans of time

A span is told in the largest unit that it holds at least once, cut down to a whole number of them.
-/

namespace CommitHeader.Calendar

inductive SpanUnit
  | second
  | minute
  | hour
  | day
  | week
  | month
  | year
deriving DecidableEq

namespace SpanUnit

def name : SpanUnit → String
  | second => "second"
  | minute => "minute"
  | hour => "hour"
  | day => "day"
  | week => "week"
  | month => "month"
  | year => "year"

/-- The length of a unit: a month has 30 days and a year 365. -/
def seconds : SpanUnit → Nat
  | second => 1
  | minute => 60
  | hour => 3600
  | day => 86400
  | week => 7 * 86400
  | month => 30 * 86400
  | year => 365 * 86400

/-- The unit in which a number of whole seconds is told. -/
def ofSeconds (n : Nat) : SpanUnit :=
  if n < minute.seconds then second
  else if n < hour.seconds then minute
  else if n < day.seconds then hour
  else if n < week.seconds then day
  else if n < month.seconds then week
  else if n < year.seconds then month
  else year

end SpanUnit

/-- A span as it is told: a number of units. -/
structure Span where
  count : Nat
  unit : SpanUnit
deriving DecidableEq

namespace Span

def ofSeconds (n : Nat) : Span :=
  let unit := SpanUnit.ofSeconds n
  ⟨n / unit.seconds, unit⟩

def text (span : Span) : String :=
  toString span.count ++ " " ++ span.unit.name ++ if span.count = 1 then "" else "s"

end Span

end CommitHeader.Calendar
