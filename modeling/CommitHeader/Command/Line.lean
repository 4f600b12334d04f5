import CommitHeader.Command.Arguments
import CommitHeader.Command.Branches
import CommitHeader.Command.Show

/-!
# Command lines

The commands and options of the program, and what a command line asks for.
-/

namespace CommitHeader

inductive ColourMode
  | always
  | auto
  | never
deriving DecidableEq

/-- The colour mode of a name in letters of either case. -/
def ColourMode.ofName? (name : String) : Option ColourMode :=
  match Text.lowered name with
  | "always" => some .always
  | "auto" => some .auto
  | "never" => some .never
  | _ => none

/-- What a command line asks for. -/
inductive CommandRequest
  | show (request : ShowRequest)
  | tracks (request : TracksRequest)
  | followed (request : FollowedRequest)
deriving DecidableEq

/-- A command line that is accepted. -/
structure Invocation where
  verbosity : Nat
  colours : ColourMode
  request : CommandRequest
deriving DecidableEq

namespace Invocation

def colourFault? (value : String) : Option UsageError :=
  if (ColourMode.ofName? value).isSome then none else some .invalidValue

def alignmentFault? (value : String) : Option UsageError :=
  if (Alignment.ofName? value).isSome then none else some .unsuitableValue

def pathFault? (value : String) : Option UsageError :=
  if value.isEmpty then some .invalidValue else none

/-- The options that may stand before a command and after it. -/
def sharedOptions : List OptionSpec :=
  [{ letter := some 'h', name := "help", kind := .help },
    { letter := some 'V', name := "version", kind := .version },
    { letter := some 'v', name := "verbose", kind := .counter },
    { name := "colors", kind := .value colourFault? }]

def repositoryOption : OptionSpec :=
  { letter := some 'C', name := "repo", kind := .value pathFault? }

def showOptions : List OptionSpec :=
  [{ name := "style", kind := .value alignmentFault? },
    { name := "plain", kind := .switch },
    { name := "no-links", kind := .switch },
    { name := "no-children", kind := .switch },
    { name := "utc", kind := .switch },
    { name := "config", kind := .value pathFault? }]

/-- The words of a line up to its command. -/
def outerGrammar : Grammar :=
  { options := sharedOptions, commands := ["show", "tracks", "upstream"] }

/-- The words of a line after a command. -/
def innerGrammar (command : String) : Grammar :=
  let options := sharedOptions ++ [repositoryOption]
  match command with
  | "show" => { options := options ++ showOptions, operands := 1 }
  | "tracks" => { options, operands := 2 }
  | _ => { options, operands := 1 }

/-- What the words after a command ask for. -/
def requestOf (command : String) (arguments : Arguments) : Except UsageError CommandRequest :=
  let repository := arguments.value? "repo"
  match command, arguments.operands with
  | "show", operands =>
      let missing : ShowRequest := {}
      .ok (.show {
        revision := operands.head?.getD missing.revision
        alignment := (arguments.value? "style").bind Alignment.ofName?
        plain := arguments.has "plain"
        noLinks := arguments.has "no-links"
        noChildren := arguments.has "no-children"
        universalTime := arguments.has "utc"
        repository
        settings := arguments.value? "config" })
  | "tracks", [branch, remote] => .ok (.tracks { branch, remote, repository })
  | "tracks", _ => .error .missingOperand
  | _, operands => .ok (.followed { branch := operands.head?, repository })

/-- What a command line asks for. An option that stands on both sides of the command counts as it
stands after it. -/
def ofWords (words : List String) : Except UsageError Invocation := do
  let (outer, command?) ← Arguments.read outerGrammar {} words
  match command? with
  | none =>
      let outer ← outer.settle
      if outer.isEmpty then throw .nothingGiven else throw .noCommand
  | some (command, rest) =>
      let (inner, _) ← Arguments.read (innerGrammar command) {} rest
      let inner ← inner.settle
      let request ← requestOf command inner
      -- The last option before the command is not looked at before the words after it.
      let outer ← outer.settle
      let colours := (inner.value? "colors").or (outer.value? "colors")
      return {
        verbosity := if inner.count = 0 then outer.count else inner.count
        colours := (colours.bind ColourMode.ofName?).getD .auto
        request }

end Invocation

end CommitHeader
