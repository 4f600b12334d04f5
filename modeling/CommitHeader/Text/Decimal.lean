/-!
# Decimal numbers in a fixed width

Numbers are written in decimal, filled up to a width with zeros after the sign or with spaces before
it.
-/

namespace CommitHeader.Text

/-- How a short number is filled up to its width. -/
inductive Fill
  | none
  | zeros
  | spaces
deriving DecidableEq

namespace Decimal

def digits (n : Nat) : List Char :=
  Nat.toDigits 10 n

/-- The number that decimal digits stand for. -/
def ofDigits (cs : List Char) : Nat :=
  cs.foldl (fun acc c => acc * 10 + (c.toNat - '0'.toNat)) 0

/-- The digits of a number with zeros in front up to a width. -/
def zeroFilled (width n : Nat) : List Char :=
  List.replicate (width - (digits n).length) '0' ++ digits n

/-- A number with its sign, at least `width` characters wide unless nothing fills it. A plus sign
stands in front of a number that is not negative if `plus` asks for it. -/
def write (fill : Fill) (width : Nat) (plus : Bool) (n : Int) : List Char :=
  let sign := if n < 0 then ['-'] else if plus then ['+'] else []
  let body := digits n.natAbs
  let gap := width - (sign.length + body.length)
  match fill with
  | .none => sign ++ body
  | .zeros => sign ++ (List.replicate gap '0' ++ body)
  | .spaces => List.replicate gap ' ' ++ (sign ++ body)

/-- A number below 256 in two places. -/
def twoPlaces (fill : Fill) (n : Nat) : List Char :=
  let ones := Char.ofNat ('0'.toNat + n % 10)
  if n / 10 = 0 then
    match fill with
    | .none => [ones]
    | .zeros => ['0', ones]
    | .spaces => [' ', ones]
  -- From ten tens on the first place is no digit.
  else [Char.ofNat ('0'.toNat + n / 10), ones]

end Decimal

end CommitHeader.Text
