/-!
# Blank characters

The characters of the Unicode property White_Space, and what trimming and cutting into lines make
of them. A line ends at a line feed; a carriage return just before it belongs to the line's end, and
every other blank, the other vertical ones included, is part of a line.
-/

namespace CommitHeader.Text

/-- The Unicode property White_Space. -/
def isBlank (c : Char) : Bool :=
  (0x09 ≤ c.toNat && c.toNat ≤ 0x0d) || c.toNat = 0x20 || c.toNat = 0x85 || c.toNat = 0xa0 ||
    c.toNat = 0x1680 || (0x2000 ≤ c.toNat && c.toNat ≤ 0x200a) || c.toNat = 0x2028 ||
    c.toNat = 0x2029 || c.toNat = 0x202f || c.toNat = 0x205f || c.toNat = 0x3000

/-- A text without its leading blanks. -/
def dropBlanks (cs : List Char) : List Char :=
  cs.dropWhile isBlank

/-- Whether a text holds a character other than a blank. -/
def hasInk (cs : List Char) : Bool :=
  cs.any fun c => !isBlank c

/-- A text up to its first line feed, without a carriage return just before that line feed. A
carriage return at the very end of the text stays. -/
def firstLine : List Char → List Char
  | [] => []
  | '\n' :: _ => []
  | '\r' :: '\n' :: _ => []
  | c :: cs => c :: firstLine cs

/-- Lines with a line feed between them and none after the last. -/
def joinLines (lines : List String) : String :=
  "\n".intercalate lines

end CommitHeader.Text
