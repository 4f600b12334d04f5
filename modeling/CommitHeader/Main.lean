import CommitHeader.Command
import CommitHeader.Workspace.Description

/-!
# The program

Runs a command line in the workspace that standard input describes. Output goes to standard output
and complaints to the standard error stream.
-/

namespace CommitHeader.Program

/-- The complaint about a command line that is not accepted. -/
def usageMessage : UsageError → String
  | .help | .nothingGiven => "usage: [options] show|tracks|upstream [options] [operands]"
  | .version => "commit-header 1"
  | .noCommand => "a command is required"
  | .unknownCommand => "there is no such command"
  | .missingOperand => "an operand is missing"
  | .unknownArgument => "there is no such option or operand"
  | .repeatedOption => "an option cannot be given twice"
  | .unsuitableValue | .invalidValue => "the value of an option is not allowed"
  | .needlessValue => "an option takes no value"

/-- The exit status for a command line that is not accepted: asking for help or the version is no
fault. -/
def usageStatus : UsageError → UInt32
  | .help | .version => 0
  | _ => 2

def failureMessage (failure : Failure) : String :=
  "Error: " ++ failure.message?.getD "the repository cannot be read"

/-- Runs a command line and gives its exit status. -/
def run (words : List String) : IO UInt32 := do
  match Invocation.ofWords words with
  | .error e =>
      IO.eprintln (usageMessage e)
      return usageStatus e
  | .ok invocation =>
      match Description.read? (← (← IO.getStdin).readToEnd) with
      | none =>
          IO.eprintln "Error: standard input describes no workspace"
          return 1
      | some workspace =>
          let outcome := invocation.run workspace
          IO.print outcome.output
          match outcome.status with
          | .ok status => return status.toUInt32
          | .error failure =>
              IO.eprintln (failureMessage failure)
              return 1

end CommitHeader.Program

def main (words : List String) : IO UInt32 :=
  CommitHeader.Program.run words
