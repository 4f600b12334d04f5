import CommitHeader.Text.Property.Emoji
import CommitHeader.Text.Width.Ligature

/-!
# What a text begins with

A text is measured from its end to its start, and what a character adds depends on what the text to
its right begins with: a line feed makes a carriage return vanish, a variation selector decides how
a character is shown, and emoji sequences and ligatures draw several characters in one place. Here
are the beginnings that matter and the characters that combine with each.
-/

namespace CommitHeader.Text

open Property

/-- A variation selector that changes the columns of the character it follows. -/
inductive Selector
  /-- Asks for emoji presentation. -/
  | emoji
  /-- Asks for text presentation. -/
  | text
  /-- Asks for the full width of a quotation mark. -/
  | fullWidth
deriving DecidableEq

/-- The emoji after a joiner, with the characters between the joiner and the start of the emoji
that is to be joined to it. -/
inductive Joined
  /-- The joiner alone, or with a selector that asks for emoji presentation. -/
  | emoji (selected : Bool)
  /-- An enclosing keycap, with such a selector or not. -/
  | keycap (selected : Bool)
  /-- One regional indicator. -/
  | flagLetter
  /-- Regional indicators in pairs. -/
  | evenFlagLetters
  /-- Regional indicators of which the first has lost its partner. -/
  | oddFlagLetters
  /-- The end tag of a flag and so many letter tags before it. -/
  | tagLetters (count : Nat)
  /-- The tags of a flag, of which the first ones are so many digit tags. -/
  | tagDigits (count : Nat)
deriving DecidableEq

/-- What a text begins with, as far as it matters for the character on its left. -/
inductive Follow
  | plain
  | lineFeed
  /-- A character or sequence shown as an emoji. -/
  | emoji
  | skinTone
  /-- One regional indicator. -/
  | flagLetter
  /-- Several regional indicators. -/
  | flagLetters
  /-- A joiner in front of an emoji. -/
  | joined (sequence : Joined)
  /-- A variation selector in front of a ligature or of anything else. -/
  | selected (selector : Selector) (tail : Option Ligature)
  /-- The end of a ligature. -/
  | ligated (tail : Ligature)
  /-- The Kirat Rai vowel sign E. -/
  | vowelE
  /-- The Kirat Rai vowel sign AI, or two signs E. -/
  | vowelAI
deriving DecidableEq

/-- A regional indicator: two of them name a flag. -/
def isFlagLetter (n : Nat) : Bool :=
  0x1f1e6 ≤ n && n ≤ 0x1f1ff

def isSkinTone (n : Nat) : Bool :=
  0x1f3fb ≤ n && n ≤ 0x1f3ff

namespace Selector

/-- The selector that a character is. -/
def ofChar? (c : Char) : Option Selector :=
  if c.toNat = 0xfe0f then some .emoji
  else if c.toNat = 0xfe0e then some .text
  else if c.toNat = 0xfe01 then some .fullWidth
  else none

/-- Whether a selector has an effect on the character in front of it. -/
def applies (c : Char) : Selector → Bool
  | .emoji => inRanges emojiStyled c
  | .text => inRanges textStyled c
  | .fullWidth => c = '‘' || c = '’' || c = '“' || c = '”'

/-- The columns of a character to which a selector applies, and what it offers to the one on its
left. -/
def shown : Selector → Nat × Follow
  | .emoji => (2, .emoji)
  | .text => (1, .plain)
  | .fullWidth => (2, .plain)

end Selector

/-- Columns that a sequence after a joiner takes only if it ends where it stands: a regional
indicator without a partner. -/
def Joined.owed : Joined → Nat
  | .flagLetter | .oddFlagLetters => 1
  | _ => 0

/-- What a character adds that belongs to the emoji it is joined to, without columns owed, and what
the longer text begins with. A character that starts the emoji adds nothing: the emoji after the
joiner has taken the place. -/
def Joined.combine? (c : Char) : Joined → Option (Nat × Follow)
  | .emoji selected =>
      let n := c.toNat
      if selected then
        if inRanges emojiStyled c then some (0, .emoji) else none
      else if n = 0xfe0f then some (0, .joined (.emoji true))
      else if n = 0x20e3 then some (0, .joined (.keycap false))
      else if n = 0xe007f then some (0, .joined (.tagLetters 0))
      else if isFlagLetter n then some (0, .joined .flagLetter)
      else if isSkinTone n then some (0, .skinTone)
      else if inRanges emojiPresentation c then some (0, .emoji)
      else none
  | .keycap selected =>
      if selected then
        if inRanges emojiStyled c then some (0, .emoji) else none
      else if c.toNat = 0xfe0f then some (0, .joined (.keycap true))
      else none
  | .flagLetter => if isFlagLetter c.toNat then some (0, .joined .evenFlagLetters) else none
  | .evenFlagLetters =>
      if isFlagLetter c.toNat then some (2, .joined .oddFlagLetters)
      else if c.toNat = 0x200d then some (0, .joined (.emoji false))
      else none
  | .oddFlagLetters =>
      if isFlagLetter c.toNat then some (0, .joined .evenFlagLetters)
      else if c.toNat = 0x200d then some (1, .joined (.emoji false))
      else none
  | .tagLetters count =>
      let n := c.toNat
      if 0xe0061 ≤ n && n ≤ 0xe007a && count < 6 then some (0, .joined (.tagLetters (count + 1)))
      else if 0xe0030 ≤ n && n ≤ 0xe0039 && count ≤ 4 then some (0, .joined (.tagDigits 1))
      else if n = 0x1f3f4 && 3 ≤ count then some (0, .emoji)
      else none
  | .tagDigits count =>
      let n := c.toNat
      if 0xe0030 ≤ n && n ≤ 0xe0039 && count < 3 then some (0, .joined (.tagDigits (count + 1)))
      else if n = 0x1f3f4 && count = 3 then some (0, .emoji)
      else none

/-- What a character adds that belongs to a ligature, without columns owed, and what the longer text
begins with. -/
def Ligature.combine? (c : Char) (ligature : Ligature) : Option (Nat × Follow) :=
  match Selector.ofChar? c, ligature.across? c, ligature.extend? c with
  | some selector, _, _ => some (0, .selected selector (some ligature))
  | none, some longer, _ => some (0, .ligated longer)
  | none, none, some longer => some (0, .ligated longer)
  | none, none, none => if ligature.isCompletedBy c then some (0, .plain) else none

namespace Follow

/-- What a character offers to the one on its left. -/
def ofChar (c : Char) : Follow :=
  let n := c.toNat
  if n = 0x0a then .lineFeed
  else if n ≤ 0xa0 then .plain
  else if isSkinTone n then .skinTone
  else if isFlagLetter n then .flagLetter
  else if inRanges emojiPresentation c then .emoji
  else if n = 0x16d67 then .vowelE
  else if n = 0x16d68 then .vowelAI
  else match Selector.ofChar? c, Ligature.ofChar? c with
    | some selector, _ => .selected selector none
    | none, some tail => .ligated tail
    | none, none => .plain

/-- Columns that the beginning of a text takes only if nothing comes to share them. -/
def owed : Follow → Nat
  | .joined sequence => sequence.owed
  | .ligated tail => tail.owed
  | .selected _ (some tail) => tail.owed
  | _ => 0

/-- What a character adds that combines with the beginning of a text, without columns owed, and what
the longer text begins with. -/
def combine? (c : Char) : Follow → Option (Nat × Follow)
  | .plain => none
  | .lineFeed => if c = '\r' then some (0, .plain) else none
  | .emoji => if c.toNat = 0x200d then some (0, .joined (.emoji false)) else none
  | .skinTone =>
      if inRanges emojiModifierBase c then some (0, .emoji)
      else if c.toNat = 0x200d then some (0, .joined (.emoji false))
      else none
  | .flagLetter => if isFlagLetter c.toNat then some (1, .flagLetters) else none
  | .flagLetters =>
      if isFlagLetter c.toNat then some (1, .flagLetters)
      else if c.toNat = 0x200d then some (0, .joined (.emoji false))
      else none
  | .joined sequence => sequence.combine? c
  | .selected selector tail =>
      if selector.applies c then some (selector.shown.1 + tail.elim 0 (·.owed), selector.shown.2)
      else tail.bind (·.combine? c)
  | .ligated tail => tail.combine? c
  | .vowelE =>
      let n := c.toNat
      if n = 0x16d63 || n = 0x16d69 then some (0, .plain)
      else if n = 0x16d67 then some (0, .vowelAI)
      else if n = 0x16d68 then some (1, .vowelE)
      else none
  | .vowelAI => if c.toNat = 0x16d63 then some (0, .plain) else none

end Follow

end CommitHeader.Text
