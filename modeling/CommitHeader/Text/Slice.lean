import CommitHeader.Text.Cut

/-!
# Slices of a text

A place in a text can be told by the bytes of UTF-8 before it. Not every number of bytes is such a
place: a cut fails within a character and behind the end.
-/

namespace CommitHeader.Text

/-- A text cut in two after `n` bytes, unless these end within a character or beyond the text. -/
def cutAtByte? : Nat → List Char → Option (List Char × List Char)
  | 0, cs => some ([], cs)
  | _ + 1, [] => none
  | n + 1, c :: cs =>
      if c.utf8Size ≤ n + 1 then
        (cutAtByte? (n + 1 - c.utf8Size) cs).map fun cut => (c :: cut.1, cut.2)
      else none

/-- The text between two byte offsets, if the first is not the greater one and no character lies
across either of them. -/
def slice? (start stop : Nat) (cs : List Char) : Option (List Char) :=
  if start ≤ stop then do
    let (_, rest) ← cutAtByte? start cs
    let (part, _) ← cutAtByte? (stop - start) rest
    some part
  else none

/-- The byte offset of the first `mark`. -/
def firstOffset? (mark : Char) (cs : List Char) : Option Nat :=
  (cutFirst? mark cs).map fun cut => (String.ofList cut.1).utf8ByteSize

/-- The byte offset of the last `mark`. -/
def lastOffset? (mark : Char) (cs : List Char) : Option Nat :=
  (cutLast? mark cs).map fun cut => (String.ofList cut.1).utf8ByteSize

end CommitHeader.Text
