import CommitHeader.Calendar.Instant
import CommitHeader.Text.Cut
import CommitHeader.Text.Decimal
import CommitHeader.Text.Integer
import CommitHeader.Text.Utf8

/-!
# People in commits

A commit records a person on a line of bytes: a name, an address in angle brackets, the seconds
since the start of 1970 and the offset of the clock as hours and minutes. The last opening bracket
of the line begins the address and the last closing one ends it. Reading a line that was written
gives the person back but for what does not count at the ends of name and address.
-/

namespace CommitHeader

/-- A person and a time as a commit records them. -/
structure Person where
  name : List UInt8
  email : List UInt8
  /-- Seconds since the start of 1970. -/
  seconds : Int
  /-- The offset of the clock in minutes east. -/
  minutes : Int := 0
deriving DecidableEq

namespace Person

/-- Whether a byte does not count at the end of a name or address: a space, a control, or one of
`, : ; < > " \ '`. -/
def isMargin (b : UInt8) : Bool :=
  b.toNat ≤ 32 || [44, 58, 59, 60, 62, 34, 92, 39].contains b.toNat

/-- Bytes without those at either end that do not count. -/
def trimmed (bytes : List UInt8) : List UInt8 :=
  ((bytes.dropWhile isMargin).reverse.dropWhile isMargin).reverse

/-- The name or address that a part of a line stands for. It ends at a zero byte. -/
def field (bytes : List UInt8) : List UInt8 :=
  (trimmed bytes).takeWhile (· ≠ 0)

/-- The bytes of ASCII characters. -/
def ascii (cs : List Char) : List UInt8 :=
  cs.map fun c => UInt8.ofNat c.toNat

/-- Bytes as the characters with their numbers. -/
def characters (bytes : List UInt8) : List Char :=
  bytes.map fun b => Char.ofNat b.toNat

/-- An offset as a sign, two places for hours and two for minutes. -/
def zone (minutes : Int) : List Char :=
  let size := minutes.natAbs
  (if minutes < 0 then '-' else '+') ::
    (Text.Decimal.zeroFilled 2 (size / 60) ++ Text.Decimal.zeroFilled 2 (size % 60))

def encode (person : Person) : List UInt8 :=
  person.name ++ ascii [' ', '<'] ++ person.email ++ ascii ['>', ' '] ++
    ascii (Text.Decimal.write .none 0 false person.seconds ++ ' ' :: zone person.minutes)

/-- The offset in minutes at the start of a text. There is none if the text begins with no sign and
number, and one of fifteen hours or more does not count. -/
def zoneOf (cs : List Char) : Int :=
  let (sign, number) := match cs with
    | '-' :: rest => ((-1 : Int), Text.Integer.read? (Text.Integer.natural? 10) rest)
    | '+' :: rest => (1, Text.Integer.read? (Text.Integer.natural? 10) rest)
    | _ => (1, none)
  match number with
  | none => 0
  | some (n, _) =>
      -- The number may have a sign of its own behind the first one.
      let hours := n.tdiv 100
      let minutes := n.tmod 100
      if n < 0x80000000 && -0x80000000 ≤ n && hours ≤ 14 && minutes ≤ 59 then
        sign * (hours * 60 + minutes)
      else 0

/-- The seconds and the offset in minutes that stand behind an address. Nothing stands for zero; a
text that does not begin with a number is no time. -/
def timeOf? (cs : List Char) : Option (Int × Int) :=
  match cs with
  | [] | [_] => some (0, 0)
  | _ :: time =>
      (Text.Integer.read? (Text.Integer.natural? 10) time).map fun (seconds, rest) =>
        (seconds, zoneOf (rest.drop 1))

/-- The person of a line. A line without an address in brackets names nobody. -/
def decode? (line : List UInt8) : Option Person := do
  -- The last opening bracket, and the last closing one behind it.
  let (name, rest) ← Text.cutLast? 60 line
  let (email, rest) ← Text.cutLast? 62 rest
  let (seconds, minutes) ← timeOf? (characters rest)
  return { name := field name, email := field email, seconds, minutes }

/-- The text of a person: the name, and the address in angle brackets. -/
def signature (person : Person) : String :=
  Text.Utf8.decodeLossy person.name ++ " <" ++ Text.Utf8.decodeLossy person.email ++ ">"

/-- The offset in seconds; one of a day or more is none. -/
def offset (person : Person) : Int :=
  if person.minutes.natAbs < 24 * 60 then person.minutes * 60 else 0

/-- The recorded time, unless it lies outside the range of dates. -/
def timestamp? (person : Person) : Option Calendar.Timestamp :=
  if Calendar.Instant.inRange person.seconds then
    some { instant := { seconds := person.seconds }, offset := person.offset }
  else none

end Person

end CommitHeader
