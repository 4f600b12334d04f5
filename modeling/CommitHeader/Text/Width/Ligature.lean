import CommitHeader.Text.Width.Columns

/-!
# Ligatures

Letters that share one place with the letters before them. A text is measured from its end, so a
ligature is known by its last letter and grows towards the start of the text.
-/

namespace CommitHeader.Text

open Property

/-- The Arabic letters of the joining group Lam. -/
def isLam (n : Nat) : Bool :=
  n = 0x644 || (0x6b5 ≤ n && n ≤ 0x6b8) || n = 0x76a || n = 0x8a6 || n = 0x8c7

/-- The Arabic letters of the joining group Alef. -/
def isAlef (n : Nat) : Bool :=
  n = 0x622 || n = 0x623 || n = 0x625 || n = 0x627 || (0x671 ≤ n && n ≤ 0x673) || n = 0x675 ||
    n = 0x773 || n = 0x774 || (0x870 ≤ n && n ≤ 0x882)

/-- The Khmer letters that a coeng turns into a subscript. -/
def hasSubscript (n : Nat) : Bool :=
  (0x1780 ≤ n && n ≤ 0x1782) || (0x1784 ≤ n && n ≤ 0x1787) || (0x1789 ≤ n && n ≤ 0x178c) ||
    (0x178e ≤ n && n ≤ 0x1793) || (0x1795 ≤ n && n ≤ 0x1798) || (0x179b ≤ n && n ≤ 0x179d) ||
    n = 0x17a0 || n = 0x17a2 || n = 0x17a7 || n = 0x17ab || n = 0x17ac || n = 0x17af

/-- The Tifinagh letters that join into a biconsonant. -/
def isTifinagh (n : Nat) : Bool :=
  (0x2d31 ≤ n && n ≤ 0x2d65) || n = 0x2d6f

/-- The end of a ligature: its last letter, with a joiner in front of it or not, or a part of more
than one character that still lacks its first letter. -/
inductive Ligature
  /-- An Arabic alef, which a lam takes up. -/
  | alef
  /-- A Hebrew lamed, which an alef takes up across a joiner. -/
  | lamed (joined : Bool)
  /-- A Buginese ya, which the vowel of iyya takes up across a joiner. -/
  | ya (joined : Bool)
  /-- The vowel sign and the ya of the Buginese iyya, which lacks its first letter. -/
  | vowelYa
  /-- A Tifinagh letter, which joins another across a joiner of either kind. -/
  | consonant (joined : Bool)
  /-- A Tifinagh letter behind the joiner of its script. -/
  | conjunct
  /-- The second letter of a pair of Lisu tones. -/
  | secondTone
  /-- An Orkhon i, which an Orkhon z takes up across a joiner. -/
  | orkhonI (joined : Bool)
  /-- A Khmer letter that has a subscript form. -/
  | subscript
deriving DecidableEq

namespace Ligature

/-- The ligature that a letter can end. -/
def ofChar? (c : Char) : Option Ligature :=
  let n := c.toNat
  if isAlef n then some .alef
  else if n = 0x5dc then some (.lamed false)
  else if n = 0x1a10 then some (.ya false)
  else if isTifinagh n then some (.consonant false)
  else if n = 0xa4fc || n = 0xa4fd then some .secondTone
  else if n = 0x10c03 then some (.orkhonI false)
  else if hasSubscript n then some .subscript
  else none

/-- Columns that a ligature takes only if it ends where it stands: a subscript has its own column
if no coeng comes before it, and the joiner of Tifinagh if no letter does. -/
def owed : Ligature → Nat
  | .conjunct | .subscript => 1
  | _ => 0

/-- A ligature with a joiner in front. -/
def join : Ligature → Ligature
  | .lamed _ => .lamed true
  | .ya _ => .ya true
  | .consonant _ => .consonant true
  | .orkhonI _ => .orkhonI true
  | other => other

/-- The ignorable combining marks: they may stand inside every ligature but the Arabic one. -/
def isIgnorableMark (n : Nat) : Bool :=
  n = 0x34f || n = 0x17b4 || n = 0x17b5 || (0x180b ≤ n && n ≤ 0x180d) || n = 0x180f ||
    (0xfe00 ≤ n && n ≤ 0xfe0f) || (0xe0100 ≤ n && n ≤ 0xe01ef)

/-- Whether cursive letters join across a character: it takes no place and is transparent. -/
def isTransparent (c : Char) : Bool :=
  columns c = 0 && !inRanges unjoining c

/-- The ligature after a character that is drawn as nothing within it. -/
def across? (c : Char) : Ligature → Option Ligature
  | .alef => if isTransparent c then some .alef else none
  | ligature =>
      if c.toNat = 0x200d then some ligature.join
      else if isIgnorableMark c.toNat then some ligature
      else none

/-- Whether a character completes a ligature, as its first letter. -/
def isCompletedBy (c : Char) : Ligature → Bool
  | .alef => isLam c.toNat
  | .lamed joined => joined && c.toNat = 0x5d0
  | .ya _ => false
  | .vowelYa => c.toNat = 0x1a15
  | .consonant joined => joined && isTifinagh c.toNat
  | .conjunct => isTifinagh c.toNat
  | .secondTone => 0xa4f8 ≤ c.toNat && c.toNat ≤ 0xa4fb
  | .orkhonI joined => joined && c.toNat = 0x10c32
  | .subscript => c.toNat = 0x17d2

/-- The longer ligature that a character makes without completing it. -/
def extend? (c : Char) : Ligature → Option Ligature
  | .ya true => if c.toNat = 0x1a17 then some .vowelYa else none
  | .consonant _ => if c.toNat = 0x2d7f then some .conjunct else none
  | _ => none

end Ligature

end CommitHeader.Text
