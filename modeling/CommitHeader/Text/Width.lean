import CommitHeader.Text.Width.Follow

/-!
# Display width

How many columns a text takes in a fixed-width display. The text is read from its end to its start;
each character either combines with what the text to its right begins with or stands alone.
-/

namespace CommitHeader.Text

/-- A character on its own: its columns, without those it may still lose, and what it offers. -/
def alone (c : Char) : Nat × Follow :=
  let follow := Follow.ofChar c
  (columns c - follow.owed, follow)

/-- What a character adds in front of a text that begins with `follow`, and what the longer text
begins with. Columns that were owed are due as soon as nothing shares them. -/
def widthStep (c : Char) (follow : Follow) : Nat × Follow :=
  (follow.combine? c).getD ((alone c).1 + follow.owed, (alone c).2)

/-- The columns counted so far and what the text begins with, after one more character in front. -/
def widen (c : Char) (seen : Nat × Follow) : Nat × Follow :=
  let step := widthStep c seen.2
  (step.1 + seen.1, step.2)

/-- The display width of a text. -/
def widthOf (cs : List Char) : Nat :=
  let seen := cs.foldr widen (0, .plain)
  seen.1 + seen.2.owed

def width (s : String) : Nat :=
  widthOf s.toList

end CommitHeader.Text
