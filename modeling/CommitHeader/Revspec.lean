import CommitHeader.Text.Decimal

/-!
# Revision expressions

A revision is named by a base and steps from it to an ancestor: `^` with a number goes to that
parent, `~` with a number goes to a first parent that many times, and `^` with braces stays.
-/

namespace CommitHeader

/-- A step from a commit to another one. -/
inductive RevisionStep
  /-- The parent of this number, counted from one; zero stays. -/
  | parent (number : Nat)
  /-- The first parent, this many times. -/
  | ancestor (count : Nat)
  /-- The commit that is meant. -/
  | peel
deriving DecidableEq

/-- A base and the steps from it. -/
structure Revspec where
  base : String
  steps : List RevisionStep
deriving DecidableEq

namespace Revspec

def beginsStep (c : Char) : Bool :=
  c = '^' || c = '~'

/-- The number at the start of a text, or one if there is none. -/
def count (cs : List Char) : Nat :=
  let digits := cs.takeWhile Char.isDigit
  if digits.isEmpty then 1 else Text.Decimal.ofDigits digits

/-- The step at the start of a text and what follows it. The braces may be empty or hold the word
for a commit. -/
def step? : List Char → Option (RevisionStep × List Char)
  | '^' :: '\x7b' :: '\x7d' :: rest => some (.peel, rest)
  | '^' :: '\x7b' :: 'c' :: 'o' :: 'm' :: 'm' :: 'i' :: 't' :: '\x7d' :: rest => some (.peel, rest)
  | '^' :: '\x7b' :: _ => none
  | '^' :: rest => some (.parent (count rest), rest.dropWhile Char.isDigit)
  | '~' :: rest => some (.ancestor (count rest), rest.dropWhile Char.isDigit)
  | _ => none

def steps? (cs : List Char) : Option (List RevisionStep) :=
  if cs.isEmpty then some []
  else
    match step? cs with
    | none => none
    | some (step, rest) =>
        if rest.length < cs.length then (steps? rest).map (step :: ·) else none
termination_by cs.length

/-- The base that a text names. A lone at sign is short for the head. -/
def baseOf (cs : List Char) : String :=
  if cs = ['@'] then "HEAD" else String.ofList cs

/-- The revision that an expression names. -/
def ofText? (text : String) : Option Revspec :=
  let base := text.toList.takeWhile fun c => !beginsStep c
  if base.isEmpty then none
  else
    (steps? (text.toList.dropWhile fun c => !beginsStep c)).map fun steps => ⟨baseOf base, steps⟩

end Revspec

end CommitHeader
