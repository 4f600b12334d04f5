import CommitHeader.Text.Property.GraphemeExtend
import CommitHeader.Text.Property.Placeless
import CommitHeader.Text.Property.Wide

/-!
# Columns of a character

How many columns a character takes in a fixed-width display when it stands alone.
-/

namespace CommitHeader.Text

open Property

/-- Trailing parts of Hangul syllables: the conjoining vowels and finals. -/
def isJamoTail (n : Nat) : Bool :=
  (0x1160 ≤ n && n ≤ 0x11ff) || (0xd7b0 ≤ n && n ≤ 0xd7c6) || (0xd7cb ≤ n && n ≤ 0xd7fb)

/-- Whether a character takes no place of its own. -/
def takesNoPlace (c : Char) : Bool :=
  c.toNat ≠ 0x115f && c.toNat ≠ 0x2d7f &&
    (inRanges graphemeExtend c || inRanges defaultIgnorable c || isJamoTail c.toNat ||
      inRanges placeless c)

/-- The columns of a character that stands alone. Controls take one, and two Khmer letters are
drawn wider than any other. -/
def columns (c : Char) : Nat :=
  if c.toNat ≤ 0xa0 then 1
  else if c.toNat = 0x17a4 then 2
  else if c.toNat = 0x17d8 then 3
  else if takesNoPlace c then 0
  else if inRanges wide c then 2
  else 1

end CommitHeader.Text
