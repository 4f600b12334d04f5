import CommitHeader.Toml.StringForm

/-!
# Writing strings

The form that a text is written in, and its characters in that form. A text takes the first form
that needs no escapes, in the order basic, literal, long basic, long literal; if none of them will
do it takes a basic form with escapes, a long one if it has more than one line.
-/

namespace CommitHeader.Toml.StringForm

/-- Whether a text has a control other than tab and line feed. -/
def hasControls (cs : List Char) : Bool :=
  cs.any fun c => isControl c && c ≠ '\n'

/-- Whether three marks follow each other in a text. -/
def hasRunOfThree (mark : Char) : List Char → Bool
  | a :: b :: c :: rest => (a = mark && b = mark && c = mark) || hasRunOfThree mark (b :: c :: rest)
  | _ => false

/-- The form that a text is written in. -/
def forText (cs : List Char) : StringForm :=
  -- Without escapes if there is a form for that, and on one line before several.
  let plain := !hasControls cs
  let oneLine := !cs.contains '\n'
  if plain && oneLine && !cs.contains '\\' && !cs.contains '"' then .basic
  else if plain && oneLine && !cs.contains '\'' then .literal
  else if plain && !cs.contains '\\' && !hasRunOfThree '"' cs then .longBasic
  else if plain && !hasRunOfThree '\'' cs then .longLiteral
  else if oneLine then .basic
  else .longBasic

/-- An escape by a number of four digits. -/
def numbered (c : Char) : List Char :=
  let digit (weight : Nat) := Text.Hex.upperDigit (c.toNat / weight % 16)
  ['\\', 'u', digit 4096, digit 256, digit 16, digit 1]

/-- A character other than a quote in a form with escapes. -/
def escape (form : StringForm) (c : Char) : List Char :=
  if c = '\x08' then ['\\', 'b']
  else if c = '\t' then ['\\', 't']
  else if c = '\x0c' then ['\\', 'f']
  else if c = '\r' then ['\\', 'r']
  else if c = '\\' then ['\\', '\\']
  else if c = '\n' then if form.isLong then ['\n'] else ['\\', 'n']
  else if isControl c then numbered c
  else [c]

/-- A text in a form with escapes, given how many quotes stand just before it. -/
def escapeFrom (form : StringForm) (run : Nat) : List Char → List Char
  | [] => []
  | c :: rest =>
      if c = '"' then
        -- A third quote in a row would end a long form.
        if form.isLong && run < 2 then '"' :: escapeFrom form (run + 1) rest
        else '\\' :: '"' :: escapeFrom form 0 rest
      else escape form c ++ escapeFrom form 0 rest

/-- The text between the quotes. -/
def content (form : StringForm) (cs : List Char) : List Char :=
  if form.hasEscapes then escapeFrom form 0 cs else cs

/-- A text as a string. A text of several lines starts on a line of its own. -/
def write (text : String) : List Char :=
  let cs := text.toList
  let form := forText cs
  form.quotes ++ (if form.isLong && cs.contains '\n' then ['\n'] else []) ++ form.content cs ++
    form.quotes

end CommitHeader.Toml.StringForm
