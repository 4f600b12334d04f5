import CommitHeader.Header
import CommitHeader.Text.Quoted

/-!
# Settings

What a user can configure about headers, and which settings make sense: dates need a pattern that
can be read, and commit links a scheme.
-/

namespace CommitHeader

structure Settings where
  alignment : Alignment := .tabs
  links : Bool := true
  scheme : String := Markup.defaultCommitScheme
  pattern : String := Calendar.defaultPattern
  labels : Labels := {}
deriving DecidableEq

namespace Settings

/-- What is wrong with settings. -/
inductive Fault
  | invalidPattern (pattern : String)
  | emptyScheme
deriving DecidableEq

def Fault.message : Fault → String
  | .invalidPattern pattern => "invalid date format " ++ Text.Quoted.text pattern
  | .emptyScheme => "commit link scheme must not be empty"

/-- The first fault of some settings. -/
def fault? (settings : Settings) : Option Fault :=
  if !Calendar.Pattern.isValid settings.pattern then some (.invalidPattern settings.pattern)
  else if settings.scheme.isEmpty then some .emptyScheme
  else none

/-- How headers look under some settings, with dates at an offset. -/
def style (settings : Settings) (offset : Int) : HeaderStyle :=
  { alignment := settings.alignment
    dates := { pattern := settings.pattern, offset }
    scheme := settings.scheme
    labels := settings.labels }

end Settings

end CommitHeader
