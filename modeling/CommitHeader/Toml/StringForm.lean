import CommitHeader.Text.Hex
import CommitHeader.Text.Lead
import CommitHeader.Toml.Layout

/-!
# String forms

The four ways to write a string. A basic form stands between double quotes and knows escapes, a
literal form stands between single quotes and knows none; either may be long, between three quotes,
and then run over several lines. Up to two quotes may stand just before the three that close a long
form.
-/

namespace CommitHeader.Toml

/-- A way to write a string. -/
inductive StringForm
  | basic
  | literal
  | longBasic
  | longLiteral
deriving DecidableEq

/-- The characters that a letter or mark after a backslash stands for. -/
def shortEscapes : List (Char × Char) :=
  [('b', '\x08'), ('t', '\t'), ('n', '\n'), ('f', '\x0c'), ('r', '\r'), ('e', '\x1b'), ('"', '"'),
    ('\\', '\\')]

/-- How many hexadecimal digits follow a letter after a backslash. -/
def digitEscapes : List (Char × Nat) :=
  [('x', 2), ('u', 4), ('U', 8)]

/-- The character with a number, unless there is none. -/
def charOf? (n : Nat) : Option Char :=
  if n.isValidChar then some (Char.ofNat n) else none

/-- The character of an escape, after its backslash. -/
def escaped? : Reader Char
  | [] => none
  | c :: rest =>
      match List.lookup c shortEscapes with
      | some shown => some (shown, rest)
      | none =>
          match List.lookup c digitEscapes with
          | none => none
          | some count =>
              if rest.length < count then none
              else
                match (Text.Hex.readOnto? 0 (rest.take count)).bind charOf? with
                | some shown => some (shown, rest.drop count)
                | none => none

namespace StringForm

/-- The quote that a form stands between. -/
def quote : StringForm → Char
  | .basic | .longBasic => '"'
  | .literal | .longLiteral => '\''

/-- Whether a form may run over several lines. -/
def isLong : StringForm → Bool
  | .basic | .literal => false
  | .longBasic | .longLiteral => true

/-- Whether a form knows escapes. -/
def hasEscapes : StringForm → Bool
  | .basic | .longBasic => true
  | .literal | .longLiteral => false

/-- The quotes on either side of a form. -/
def quotes (form : StringForm) : List Char :=
  List.replicate (if form.isLong then 3 else 1) form.quote

/-- The closing quotes, and the quotes before them that belong to the string. -/
def closing? (form : StringForm) (cs : List Char) : Option (List Char × List Char) :=
  match Text.dropLead? form.quotes cs with
  | none => none
  | some rest =>
      if form.isLong then
        let extra := (rest.take 2).takeWhile (· = form.quote)
        some (extra, rest.drop extra.length)
      else some ([], rest)

/-- A backslash at the end of a line, with the spaces and lines after it: it stands for nothing. -/
def foldedLine? (cs : List Char) : Option (List Char) :=
  match dropSpace cs with
  | '\n' :: rest => some (dropSpaceAndLines rest)
  | '\r' :: '\n' :: rest => some (dropSpaceAndLines rest)
  | _ => none

/-- The next part of a string's text: a character, an escape, the end of a line, or nothing where a
line is folded. -/
def part? (form : StringForm) : Reader (List Char)
  | [] => none
  | '\n' :: rest => if form.isLong then some (['\n'], rest) else none
  | '\r' :: '\n' :: rest => if form.isLong then some (['\r', '\n'], rest) else none
  | c :: rest =>
      if c = '\\' && form.hasEscapes then
        match if form.isLong then foldedLine? rest else none with
        | some rest => some ([], rest)
        | none => (escaped? rest).map fun (shown, rest) => ([shown], rest)
      else if isControl c then none
      else some ([c], rest)

/-- The text of a string from after its opening quotes to its closing ones. -/
def body? (form : StringForm) (cs : List Char) : Option (List Char × List Char) :=
  match form.closing? cs with
  | some (extra, rest) => some (extra, rest)
  | none =>
      match form.part? cs with
      | none => none
      | some (part, rest) =>
          if rest.length < cs.length then
            (body? form rest).map fun (text, last) => (part ++ text, last)
          else none
termination_by cs.length

/-- A text without the line end at its start. -/
def dropLineEnd : List Char → List Char
  | '\n' :: rest => rest
  | '\r' :: '\n' :: rest => rest
  | cs => cs

/-- The form whose opening quotes a text begins with, and what follows them. The line end just after
the quotes of a long form does not count. -/
def opening? (cs : List Char) : Option (StringForm × List Char) :=
  match cs with
  | '"' :: '"' :: '"' :: rest => some (.longBasic, dropLineEnd rest)
  | '\'' :: '\'' :: '\'' :: rest => some (.longLiteral, dropLineEnd rest)
  | '"' :: rest => some (.basic, rest)
  | '\'' :: rest => some (.literal, rest)
  | _ => none

/-- A string in any form. -/
def read? : Reader String := fun cs =>
  match opening? cs with
  | none => none
  | some (form, rest) => (form.body? rest).map fun (text, last) => (String.ofList text, last)

end StringForm

end CommitHeader.Toml
