import CommitHeader.Text.Hex
import CommitHeader.Text.Property.GraphemeExtend
import CommitHeader.Text.Property.Unprintable

/-!
# Quoted text in diagnostics

A character or text as a message shows it: between quotes, with a backslash form for the quote
itself, the backslash and the usual controls, and a number for every character that extends a
grapheme or has no printed form.
-/

namespace CommitHeader.Text.Quoted

open Property

/-- A character by its number. -/
def numbered (c : Char) : List Char :=
  ['\\', 'u', '\x7b'] ++ Hex.ofNat c.toNat ++ ['\x7d']

/-- A character as it stands between two characters `quote`. -/
def escape (quote c : Char) : List Char :=
  if c = '\x00' then ['\\', '0']
  else if c = '\t' then ['\\', 't']
  else if c = '\r' then ['\\', 'r']
  else if c = '\n' then ['\\', 'n']
  else if c = '\\' || c = quote then ['\\', c]
  else if inRanges graphemeExtend c || inRanges unprintable c then numbered c
  else [c]

/-- A character between apostrophes. -/
def character (c : Char) : String :=
  String.ofList (['\''] ++ escape '\'' c ++ ['\''])

/-- A text between double quotes. -/
def text (s : String) : String :=
  String.ofList (['"'] ++ s.toList.flatMap (escape '"') ++ ['"'])

end CommitHeader.Text.Quoted
