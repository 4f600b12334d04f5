/-!
# Commit messages

A message is a run of bytes that ends at the first zero byte. Line feeds at its start do not count.
Its summary is its first paragraph on one line.
-/

namespace CommitHeader.Message

/-- A message without the line feeds at its start. -/
def body (message : List UInt8) : List UInt8 :=
  (message.takeWhile (· ≠ 0)).dropWhile (· = 10)

/-- Whether a byte is space other than a line feed. -/
def isSpaceInLine (b : UInt8) : Bool :=
  b = 32 || b = 9 || b = 11 || b = 12 || b = 13

def isSpace (b : UInt8) : Bool :=
  b = 10 || isSpaceInLine b

/-- Whether a paragraph ends at a line feed that is followed by these bytes: there are none, or the
next line is blank. -/
def endsParagraph (rest : List UInt8) : Bool :=
  match rest.dropWhile isSpaceInLine with
  | [] => true
  | b :: _ => b = 10

/-- The first paragraph on one line, given the space before it that is still to be written. Space
with a line feed in it becomes one blank, other space stays, and space at the end is dropped. -/
def summaryAfter (gap : List UInt8) : List UInt8 → List UInt8
  | [] => []
  | b :: rest =>
      if b = 10 && endsParagraph rest then []
      else if isSpace b then summaryAfter (gap ++ [b]) rest
      else (if gap.contains 10 then [32] else gap) ++ b :: summaryAfter [] rest

def summary (message : List UInt8) : List UInt8 :=
  summaryAfter [] (body message)

end CommitHeader.Message
