import CommitHeader.Text.Lead

/-!
# Cutting at a mark

A list cut in two at the first or the last place where a mark stands, or into pieces at every such
place. The mark itself belongs to neither side.
-/

namespace CommitHeader.Text

/-- A text up to the first place where `mark` stands, and what follows that mark. -/
def cutAt? (mark : List Char) : List Char → Option (List Char × List Char)
  | [] => (dropLead? mark []).map fun rest => ([], rest)
  | c :: cs =>
      match dropLead? mark (c :: cs) with
      | some rest => some ([], rest)
      | none => (cutAt? mark cs).map fun cut => (c :: cut.1, cut.2)

/-- A list up to its first `mark`, and what follows it. -/
def cutFirst? {α : Type} [DecidableEq α] (mark : α) : List α → Option (List α × List α)
  | [] => none
  | c :: cs =>
      if c = mark then some ([], cs) else (cutFirst? mark cs).map fun cut => (c :: cut.1, cut.2)

/-- A list up to its last `mark`, and what follows it. -/
def cutLast? {α : Type} [DecidableEq α] (mark : α) : List α → Option (List α × List α)
  | [] => none
  | c :: cs =>
      match cutLast? mark cs with
      | some cut => some (c :: cut.1, cut.2)
      | none => if c = mark then some ([], cs) else none

/-- The pieces of a list between its marks: one more than there are marks. -/
def cutEach {α : Type} [DecidableEq α] (mark : α) : List α → List (List α)
  | [] => [[]]
  | c :: cs =>
      if c = mark then [] :: cutEach mark cs
      else
        match cutEach mark cs with
        | [] => [[c]]
        | piece :: pieces => (c :: piece) :: pieces

end CommitHeader.Text
