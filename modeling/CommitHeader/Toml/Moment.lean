import CommitHeader.Calendar.Civil
import CommitHeader.Text.Decimal

/-!
# TOML dates and times

Which texts are a date, a time of day, or a date and a time with or without an offset. Seconds may
be left out, and there is room for a leap second.
-/

namespace CommitHeader.Toml.Moment

/-- The number that decimal digits stand for; nothing if a character is no digit. -/
def number? (cs : List Char) : Option Nat :=
  if cs.all Char.isDigit then some (Text.Decimal.ofDigits cs) else none

/-- Whether two digits stand for a number within bounds. -/
def isWithin (low high : Nat) (a b : Char) : Bool :=
  match number? [a, b] with
  | some n => low ≤ n && n ≤ high
  | none => false

/-- Whether digits name a day of the calendar. -/
def isDay (year month day : List Char) : Bool :=
  match number? year, number? month, number? day with
  | some y, some m, some d =>
      1 ≤ m && 1 ≤ d &&
        match (Calendar.monthLengths (Calendar.isLeap y))[m - 1]? with
        | some length => d ≤ length
        | none => false
  | _, _, _ => false

/-- What follows a date at the start of a text. -/
def afterDate? : List Char → Option (List Char)
  | a :: b :: c :: d :: '-' :: e :: f :: '-' :: g :: h :: rest =>
      if isDay [a, b, c, d] [e, f] [g, h] then some rest else none
  | _ => none

/-- What follows a fraction of a second at the start of a text, if there is one. -/
def afterFraction? : List Char → Option (List Char)
  | '.' :: c :: rest => if c.isDigit then some (rest.dropWhile Char.isDigit) else none
  | '.' :: [] => none
  | cs => some cs

/-- What follows a time of day at the start of a text. -/
def afterTime? : List Char → Option (List Char)
  | a :: b :: ':' :: c :: d :: ':' :: e :: f :: rest =>
      if isWithin 0 23 a b && isWithin 0 59 c d && isWithin 0 60 e f then afterFraction? rest
      else none
  | a :: b :: ':' :: c :: d :: rest =>
      if isWithin 0 23 a b && isWithin 0 59 c d then some rest else none
  | _ => none

/-- Whether a text is an offset, or empty for a local time. -/
def isOffset : List Char → Bool
  | [] => true
  | [c] => c = 'Z' || c = 'z'
  | [sign, a, b, ':', c, d] =>
      (sign = '+' || sign = '-') && isWithin 0 23 a b && isWithin 0 59 c d
  | _ => false

/-- Whether a text is a date, a time of day or both. A time follows its date after the letter T, of
either case, or a space. -/
def isMoment (cs : List Char) : Bool :=
  match afterDate? cs with
  | some [] => true
  | some (c :: rest) =>
      (c = 'T' || c = 't' || c = ' ') &&
        match afterTime? rest with
        | some offset => isOffset offset
        | none => false
  | none => afterTime? cs = some []

end CommitHeader.Toml.Moment
