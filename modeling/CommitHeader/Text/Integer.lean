import CommitHeader.Text.Hex

/-!
# Reading integers

An integer at the start of a text: any space, perhaps a sign, and digits. Where the base is left
open, a number is hexadecimal behind `0x`, octal behind another zero and else decimal. A number that
does not fit into 64 bits with a sign is refused.
-/

namespace CommitHeader.Text.Integer

/-- Whether a character is space in front of a number. -/
def isSpace (c : Char) : Bool :=
  c = ' ' || (9 ≤ c.toNat && c.toNat ≤ 13)

/-- Whether a character is a digit of a base up to sixteen. -/
def isDigit (base : Nat) (c : Char) : Bool :=
  ((Hex.value? c).filter (· < base)).isSome

def ofDigits (base : Nat) (cs : List Char) : Nat :=
  cs.foldl (fun acc c => acc * base + (Hex.value? c).getD 0) 0

/-- Whether a number fits into 64 bits with a sign. -/
def fits (n : Int) : Bool :=
  -0x8000000000000000 ≤ n && n < 0x8000000000000000

/-- A number of a base without a sign and what follows it. -/
def natural? (base : Nat) (cs : List Char) : Option (Nat × List Char) :=
  let digits := cs.takeWhile (isDigit base)
  if digits.isEmpty then none else some (ofDigits base digits, cs.dropWhile (isDigit base))

/-- A number without a sign whose start tells its base. -/
def anyBase? : List Char → Option (Nat × List Char)
  | '0' :: 'x' :: c :: cs => natural? 16 (c :: cs)
  | '0' :: 'X' :: c :: cs => natural? 16 (c :: cs)
  | '0' :: cs => natural? 8 ('0' :: cs)
  | cs => natural? 10 cs

/-- An integer and what follows it, given how the part after the sign is read. -/
def read? (magnitude? : List Char → Option (Nat × List Char)) (cs : List Char) :
    Option (Int × List Char) :=
  let signed? (read : Option (Nat × List Char)) (sign : Int) : Option (Int × List Char) :=
    (read.map fun (n, rest) => (sign * n, rest)).filter fun (n, _) => fits n
  match cs.dropWhile isSpace with
  | '-' :: rest => signed? (magnitude? rest) (-1)
  | '+' :: rest => signed? (magnitude? rest) 1
  | rest => signed? (magnitude? rest) 1

end CommitHeader.Text.Integer
