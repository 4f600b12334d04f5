/-!
# Ranges of characters

A property of characters is held as a list of inclusive ranges of code points in increasing order.
-/

namespace CommitHeader.Text

/-- The code points from the first number to the second, both included. -/
abbrev CharRange := Nat × Nat

/-- Whether `c` lies in one of `ranges`. The search ends at the first range that starts above `c`,
so `ranges` has to be in increasing order. -/
def inRanges (ranges : List CharRange) (c : Char) : Bool :=
  match ranges with
  | [] => false
  | (first, last) :: rest =>
      if c.toNat < first then false
      else if c.toNat ≤ last then true
      else inRanges rest c

end CommitHeader.Text
