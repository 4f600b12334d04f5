import CommitHeader.Text.Cut
import CommitHeader.Text.Hex
import CommitHeader.Toml.Value

/-!
# TOML numbers

The texts of integers and of other numbers. A single underscore may stand between two digits, and a
decimal number other than zero does not start with a zero.
-/

namespace CommitHeader.Toml.Number

/-- The value of a digit of a base up to sixteen. -/
def digit? (base : Nat) (c : Char) : Option Nat :=
  (Text.Hex.value? c).filter (· < base)

/-- The values of digits that single underscores may separate; there is at least one. -/
def digits? (base : Nat) : List Char → Option (List Nat)
  | [] => none
  | [c] => (digit? base c).map fun d => [d]
  | c :: '_' :: rest => do
      let d ← digit? base c
      let ds ← digits? base rest
      return d :: ds
  | c :: rest => do
      let d ← digit? base c
      let ds ← digits? base rest
      return d :: ds

/-- The number that digits of a base stand for. -/
def ofDigits (base : Nat) (digits : List Nat) : Nat :=
  digits.foldl (fun acc d => acc * base + d) 0

/-- The digits of a decimal number without a needless zero in front. -/
def decimalDigits? (cs : List Char) : Option (List Nat) :=
  match digits? 10 cs with
  | some (0 :: _ :: _) => none
  | digits => digits

/-- A text without its sign, and whether that sign is a minus. -/
def splitSign : List Char → Bool × List Char
  | '+' :: rest => (false, rest)
  | '-' :: rest => (true, rest)
  | cs => (false, cs)

/-- The integer that a text stands for: decimal with a sign or without, or without a sign in base
sixteen, eight or two. -/
def integer? (cs : List Char) : Option Int :=
  match cs with
  | '0' :: 'x' :: rest => (digits? 16 rest).map fun ds => (ofDigits 16 ds : Int)
  | '0' :: 'o' :: rest => (digits? 8 rest).map fun ds => (ofDigits 8 ds : Int)
  | '0' :: 'b' :: rest => (digits? 2 rest).map fun ds => (ofDigits 2 ds : Int)
  | _ =>
      let (negative, rest) := splitSign cs
      (decimalDigits? rest).map fun ds =>
        if negative then -(ofDigits 10 ds : Int) else (ofDigits 10 ds : Int)

/-- A text cut at its first mark for an exponent, of either case. -/
def splitExponent? : List Char → Option (List Char × List Char)
  | [] => none
  | c :: rest =>
      if c = 'e' || c = 'E' then some ([], rest)
      else (splitExponent? rest).map fun cut => (c :: cut.1, cut.2)

/-- The exponent that a text stands for; leading zeros are no fault here. -/
def exponent? (cs : List Char) : Option Int :=
  let (negative, rest) := splitSign cs
  (digits? 10 rest).map fun ds =>
    if negative then -(ofDigits 10 ds : Int) else (ofDigits 10 ds : Int)

/-- The significand that a text stands for and how many of its digits are a fraction. -/
def significand? (cs : List Char) : Option (Nat × Nat) :=
  match Text.cutFirst? '.' cs with
  | none => (decimalDigits? cs).map fun ds => (ofDigits 10 ds, 0)
  | some (whole, fraction) => do
      let ds ← decimalDigits? whole
      let fs ← digits? 10 fraction
      return (ofDigits 10 (ds ++ fs), fs.length)

/-- The number that a text with a fraction, an exponent or both stands for, or the word for what is
no number on the line. -/
def real? (cs : List Char) : Option RealLiteral :=
  let (negative, rest) := splitSign cs
  if rest = ['i', 'n', 'f'] then some (.infinite negative)
  else if rest = ['n', 'a', 'n'] then some .notANumber
  else
    match splitExponent? rest with
    | none =>
        match significand? rest with
        | some (_, 0) => none
        | some (significand, places) => some (.decimal negative significand (-places))
        | none => none
    | some (start, power) => do
        let (significand, places) ← significand? start
        let exponent ← exponent? power
        return .decimal negative significand (exponent - places)

end CommitHeader.Toml.Number
