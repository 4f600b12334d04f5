/-!
# Terminal text

Coloured text, and the messages that a command prints: a mark for the kind of message and its text.
Colours stand whether or not the terminal shows them.
-/

namespace CommitHeader.Terminal

/-- The control sequence that sets a display attribute. -/
def rendition (code : Nat) : String :=
  "\x1b[" ++ toString code ++ "m"

/-- A text in a colour; the default colour follows. -/
def coloured (code : Nat) (text : String) : String :=
  rendition code ++ text ++ rendition 39

/-- A text in bold; no attribute is left after it. -/
def bold (text : String) : String :=
  rendition 1 ++ text ++ rendition 0

/-- The emoji known by a short name. -/
def emojis : List (String × String) :=
  [("warning", "\u26a0\ufe0f")]

/-- The emoji of a short name, or a text in its place. -/
def emojiOr (name missing : String) : String :=
  (List.lookup name emojis).getD missing

/-- The name of a reference, in bold and bright cyan. -/
def refName (name : String) : String :=
  bold (coloured 96 name)

/-- The text of a commit id, in yellow. -/
def commitId (id : String) : String :=
  coloured 33 id

inductive Notice
  | success
  | warning
  | info
deriving DecidableEq

namespace Notice

def colour : Notice → Nat
  | .success => 32
  | .warning => 33
  | .info => 34

def mark : Notice → String
  | .success => emojiOr "check_mark" "\u2713"
  | .warning => emojiOr "warning" "\u26a0"
  | .info => emojiOr "information" "\u2139"

/-- A message as a line of output. -/
def line (notice : Notice) (message : String) : String :=
  bold (coloured notice.colour notice.mark) ++ " " ++ message ++ "\n"

end Notice

end CommitHeader.Terminal
