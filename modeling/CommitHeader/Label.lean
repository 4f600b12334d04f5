import CommitHeader.Markup.Entity
import CommitHeader.Text.Case
import CommitHeader.Text.Width

/-!
# Labels

Labels stand in a column on the left and values start at a common column on their right. Spaces fill
the gap exactly, for fixed-width fonts; tabs rely on the tab stops of the viewer, one every four
columns.
-/

namespace CommitHeader

/-- How the gap between a label and its value is filled. -/
inductive Alignment
  | tabs
  | spaces
deriving DecidableEq

namespace Alignment

/-- The distance of two tab stops. -/
def tabSize : Nat := 4

/-- The column at which values start. With spaces there is room for a colon and one space; with
tabs it is the first stop strictly past the colon. -/
def column : Alignment → Nat → Nat
  | .spaces, longest => longest + 2
  | .tabs, longest => ((longest + 1) / tabSize + 1) * tabSize

/-- What is added to a text `width` columns wide to reach a column; nothing if it is there
already. -/
def filler (alignment : Alignment) (width target : Nat) : List Char :=
  match alignment with
  | .spaces => List.replicate (target - width) ' '
  | .tabs => List.replicate ((target - width + (tabSize - 1)) / tabSize) '\t'

/-- A text with its filler. -/
def pad (alignment : Alignment) (text : String) (target : Nat) : String :=
  text ++ String.ofList (alignment.filler (Text.width text) target)

/-- A label as markup, with or without a colon, filled up to a column. -/
def label (alignment : Alignment) (text : String) (target : Nat) (colon : Bool) : String :=
  alignment.pad (Markup.Entity.encode text ++ if colon then ":" else "") target

/-- A label as plain text with a colon, filled up to a column. -/
def plainLabel (alignment : Alignment) (text : String) (target : Nat) : String :=
  alignment.pad (text ++ ":") target

/-- The name of an alignment in a configuration. -/
def name : Alignment → String
  | .tabs => "tabs"
  | .spaces => "spaces"

/-- The alignment that a user names, in letters of either case. -/
def ofName? (s : String) : Option Alignment :=
  let name := Text.lowered s
  if name = "tabs" || name = "tab" then some .tabs
  else if name = "spaces" || name = "space" || name = "monospaced" then some .spaces
  else none

/-- The complaint about a name that is no alignment. -/
def unknownMessage (s : String) : String :=
  "unknown label alignment \x60" ++ Text.lowered s ++
    "\x60 (expected \x60tabs\x60 or \x60spaces\x60)"

end Alignment

end CommitHeader
