/-!
# Space, lines and comments

What separates the parts of a TOML document. Spaces and tabs are spaces, a line ends with a line
feed that a carriage return may precede, and a comment runs to the end of its line. Controls other
than the tab stand nowhere but at the end of a line.
-/

namespace CommitHeader.Toml

/-- A part reader: what it reads from the start of a text, and the rest of the text. -/
abbrev Reader (α : Type) := List Char → Option (α × List Char)

/-- Whether a character is space within a line. -/
def isSpace (c : Char) : Bool := c = ' ' || c = '\t'

/-- Whether a character is a control other than the tab. -/
def isControl (c : Char) : Bool :=
  (c.toNat < 0x20 && c ≠ '\t') || c = '\x7f'

/-- A text without the spaces at its start. -/
def dropSpace (cs : List Char) : List Char :=
  cs.dropWhile isSpace

/-- What follows the end of a line, before which there may be spaces and a comment. The end of the
document also ends a line. -/
def endLine? (inComment : Bool) : List Char → Option (List Char)
  | [] => some []
  | '\n' :: rest => some rest
  | '\r' :: '\n' :: rest => some rest
  | c :: rest =>
      if inComment then if isControl c then none else endLine? true rest
      else if isSpace c then endLine? false rest
      else if c = '#' then endLine? true rest
      else none

/-- What follows any number of spaces, line ends and comments. -/
def dropGap? (inComment : Bool) : List Char → Option (List Char)
  | [] => some []
  | '\n' :: rest => dropGap? false rest
  | '\r' :: '\n' :: rest => dropGap? false rest
  | c :: rest =>
      if inComment then if isControl c then none else dropGap? true rest
      else if isSpace c then dropGap? false rest
      else if c = '#' then dropGap? true rest
      else some (c :: rest)

/-- What follows the spaces and line ends at the start of a text. -/
def dropSpaceAndLines : List Char → List Char
  | '\r' :: '\n' :: rest => dropSpaceAndLines rest
  | c :: rest => if isSpace c || c = '\n' then dropSpaceAndLines rest else c :: rest
  | [] => []

/-- The items of a collection up to its closing mark: a comma between two items and perhaps one
after the last, with any gap around each part. -/
def items? {α : Type} (item : Reader α) (closing : Char) (cs : List Char) :
    Option (List α × List Char) :=
  match dropGap? false cs with
  | none | some [] => none
  | some (c :: start) =>
      if c = closing then some ([], start)
      else
        match item (c :: start) with
        | none => none
        | some (first, after) =>
            match dropGap? false after with
            | none | some [] => none
            | some (mark :: rest) =>
                if mark = closing then some ([first], rest)
                else if _h : mark = ',' ∧ rest.length < cs.length then
                  (items? item closing rest).map fun (others, last) => (first :: others, last)
                else none
termination_by cs.length
decreasing_by exact _h.2

end CommitHeader.Toml
