import CommitHeader.Text.Cut

/-!
# Arguments

The words of a command line as options and operands. Words are read from the left; an option that
takes a value waits for it until the next word, and is settled when the next known option or operand
comes or the words end. A fault therefore shows only once everything before it is settled, except
that an unknown option or a needless operand shows at once.
-/

namespace CommitHeader

/-- Why a command line is not accepted. -/
inductive UsageError
  | help
  | version
  /-- There is nothing on the line. -/
  | nothingGiven
  /-- There are options and no command. -/
  | noCommand
  | unknownCommand
  | missingOperand
  /-- There is no such option, or no place for another operand. -/
  | unknownArgument
  | repeatedOption
  /-- The value of an option is none of its kind. -/
  | unsuitableValue
  /-- An option has no value, or one that is not allowed. -/
  | invalidValue
  /-- There is a value for an option that takes none. -/
  | needlessValue
deriving DecidableEq

/-- What an option does. -/
inductive OptionKind
  | help
  | version
  /-- Counts how often it is given. -/
  | counter
  | switch
  /-- Takes a value, unless that has a fault. -/
  | value (fault? : String → Option UsageError)

/-- An option: its letter, its name and what it does. -/
structure OptionSpec where
  letter : Option Char := none
  name : String
  kind : OptionKind

/-- What a line may hold: options, a number of operands, and commands that other words follow. -/
structure Grammar where
  options : List OptionSpec
  operands : Nat := 0
  commands : List String := []

/-- An option that is not settled. -/
inductive Pending
  | nothing
  /-- An option whose value is the next word. -/
  | awaiting (name : String)
  /-- An option with its value. -/
  | filled (name value : String) (fault? : String → Option UsageError)

/-- What the words of a line have said so far. -/
structure Arguments where
  values : List (String × String) := []
  switches : List String := []
  count : Nat := 0
  operands : List String := []
  pending : Pending := .nothing
  /-- Whether every further word is an operand. -/
  operandsOnly : Bool := false

namespace Arguments

/-- The greatest count. -/
def maxCount : Nat := 255

def value? (arguments : Arguments) (name : String) : Option String :=
  List.lookup name arguments.values

def has (arguments : Arguments) (name : String) : Bool :=
  arguments.switches.contains name

def isEmpty (arguments : Arguments) : Bool :=
  arguments.values.isEmpty && arguments.switches.isEmpty && arguments.count = 0 &&
    arguments.operands.isEmpty

/-- The arguments with a value for an option that has none yet. -/
def accept (arguments : Arguments) (name value : String) (fault? : String → Option UsageError) :
    Except UsageError Arguments :=
  if (arguments.value? name).isSome then .error .repeatedOption
  else
    match fault? value with
    | some fault => .error fault
    | none => .ok { arguments with values := (name, value) :: arguments.values }

/-- The arguments with no option left to settle. -/
def settle (arguments : Arguments) : Except UsageError Arguments :=
  match arguments.pending with
  | .nothing => .ok arguments
  | .awaiting _ => .error .invalidValue
  | .filled name value fault? => { arguments with pending := .nothing }.accept name value fault?

/-- The arguments after an option without a value attached to it. -/
def give (arguments : Arguments) (option : OptionSpec) : Except UsageError Arguments := do
  let settled ← arguments.settle
  match option.kind with
  | .help => .error .help
  | .version => .error .version
  | .counter => .ok { settled with count := min maxCount (settled.count + 1) }
  | .switch =>
      if settled.has option.name then .error .repeatedOption
      else .ok { settled with switches := option.name :: settled.switches }
  | .value _ => .ok { settled with pending := .awaiting option.name }

/-- The arguments after an option with a value attached to it. -/
def giveValue (arguments : Arguments) (option : OptionSpec) (value : String) :
    Except UsageError Arguments :=
  match option.kind with
  | .value fault? => do (← arguments.settle).accept option.name value fault?
  | _ => .error .needlessValue

/-- The arguments after a word of letters, each an option. The first option that takes a value has
the rest of the word for it, less an equals sign, if there is any. -/
def giveLetters (grammar : Grammar) (arguments : Arguments) :
    List Char → Except UsageError Arguments
  | [] => .ok arguments
  | letter :: rest =>
      match grammar.options.find? fun option => option.letter = some letter with
      | none => .error .unknownArgument
      | some option =>
          match option.kind, rest with
          | .value _, '=' :: value => arguments.giveValue option (String.ofList value)
          | .value _, _ :: _ => arguments.giveValue option (String.ofList rest)
          | _, _ => do giveLetters grammar (← arguments.give option) rest

/-- The arguments after the name of an option, with a value behind an equals sign if there is
one. -/
def giveName (grammar : Grammar) (arguments : Arguments) (word : List Char) :
    Except UsageError Arguments :=
  let (name, value?) := match Text.cutFirst? '=' word with
    | some (name, value) => (name, some value)
    | none => (word, none)
  match grammar.options.find? fun option => option.name.toList = name, value? with
  | none, _ => .error .unknownArgument
  | some option, none => arguments.give option
  | some option, some value => arguments.giveValue option (String.ofList value)

/-- The arguments after an operand. -/
def giveOperand (grammar : Grammar) (arguments : Arguments) (word : String) :
    Except UsageError Arguments :=
  -- Up to the command there is no place for an operand.
  if !grammar.commands.isEmpty then
    if arguments.operandsOnly && grammar.commands.contains word then .error .unknownArgument
    else .error .unknownCommand
  else if arguments.operands.length < grammar.operands then do
    let settled ← arguments.settle
    return { settled with operands := settled.operands ++ [word] }
  else .error .unknownArgument

/-- The check that the value of an option has to pass. -/
def faultOf (grammar : Grammar) (name : String) : String → Option UsageError :=
  match grammar.options.find? fun option => option.name = name with
  | some { kind := .value fault?, .. } => fault?
  | _ => fun _ => none

/-- The arguments after a word that begins no command. -/
def giveWord (grammar : Grammar) (arguments : Arguments) (word : String) :
    Except UsageError Arguments :=
  if arguments.operandsOnly then arguments.giveOperand grammar word
  else
    match word.toList, arguments.pending with
    | ['-', '-'], _ => .ok { arguments with operandsOnly := true }
    | '-' :: '-' :: rest, _ => arguments.giveName grammar rest
    | '-' :: letter :: rest, _ => arguments.giveLetters grammar (letter :: rest)
    | _, .awaiting name =>
        .ok { arguments with pending := .filled name word (faultOf grammar name) }
    | _, _ => arguments.giveOperand grammar word

/-- Whether a word may begin a command: it is no value and no operand. -/
def mayBeCommand (arguments : Arguments) : Bool :=
  !arguments.operandsOnly &&
    match arguments.pending with
    | .awaiting _ => false
    | _ => true

/-- The arguments up to the first command or the end of the line, and the command with the words
that follow it. -/
def read (grammar : Grammar) (arguments : Arguments) :
    List String → Except UsageError (Arguments × Option (String × List String))
  | [] => .ok (arguments, none)
  | word :: words =>
      if arguments.mayBeCommand && grammar.commands.contains word then
        .ok (arguments, some (word, words))
      else
        match arguments.giveWord grammar word with
        | .error e => .error e
        | .ok next => read grammar next words

end Arguments

end CommitHeader
