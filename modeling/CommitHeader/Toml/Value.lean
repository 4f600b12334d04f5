/-!
# TOML values

What a TOML document says, without the way it is written. A table keeps its keys in the order in
which they first appear. Numbers are kept exactly; whether they fit a machine is a question of its
own.
-/

namespace CommitHeader.Toml

/-- A number with a fraction or an exponent, or one of the two words for what is no number on the
line. -/
inductive RealLiteral
  /-- The significand times ten to the exponent. -/
  | decimal (negative : Bool) (significand : Nat) (exponent : Int)
  | infinite (negative : Bool)
  | notANumber
deriving DecidableEq

/-- A value. Dates and times are kept as they are written. -/
inductive Value
  | string (text : String)
  | boolean (value : Bool)
  | integer (value : Int)
  | real (literal : RealLiteral)
  | moment (text : String)
  | array (items : List Value)
  | table (entries : List (String × Value))

/-- The keys of a table and their values. -/
abbrev Table := List (String × Value)

def Value.string? : Value → Option String
  | .string text => some text
  | _ => none

def Value.boolean? : Value → Option Bool
  | .boolean value => some value
  | _ => none

def Value.integer? : Value → Option Int
  | .integer value => some value
  | _ => none

def Value.table? : Value → Option Table
  | .table entries => some entries
  | _ => none

def Table.find? (table : Table) (key : String) : Option Value :=
  List.lookup key table

/-- Whether a literal has a double-precision value: infinity itself has one, and so has every
decimal below the point half a step above the greatest finite number. -/
def RealLiteral.isRepresentable : RealLiteral → Bool
  | .decimal _ 0 _ => true
  | .decimal _ significand exponent =>
      let places := ((Nat.toDigits 10 significand).length : Int) + exponent
      -- Half a step above the greatest finite number; far from it the places decide.
      let limit := Nat.pow 2 1024 - Nat.pow 2 970
      if places ≤ 308 then true
      else if 310 ≤ places then false
      else significand * Nat.pow 10 exponent.toNat < limit * Nat.pow 10 (-exponent).toNat
  | _ => true

/-- Whether an integer fits into 128 bits, with or without a sign. -/
def fitsInteger (value : Int) : Bool :=
  -0x80000000000000000000000000000000 ≤ value && value < 0x100000000000000000000000000000000

mutual

/-- Whether every number in a value can be represented. -/
def Value.isRepresentable : Value → Bool
  | .integer value => fitsInteger value
  | .real literal => literal.isRepresentable
  | .array items => allRepresentable items
  | .table entries => entriesRepresentable entries
  | _ => true

/-- Whether every number in some values can be represented. -/
def allRepresentable : List Value → Bool
  | [] => true
  | value :: values => value.isRepresentable && allRepresentable values

/-- Whether every number in some entries can be represented. -/
def entriesRepresentable : List (String × Value) → Bool
  | [] => true
  | (_, value) :: entries => value.isRepresentable && entriesRepresentable entries

end

end CommitHeader.Toml
