import CommitHeader.Command.Line

/-!
# Running commands

What a command prints and how it ends. The colour mode changes nothing: output is coloured always.
-/

namespace CommitHeader

/-- What a command has printed and its exit status, or why it has failed. -/
structure CommandOutcome where
  output : String
  status : Except Failure Nat

namespace CommandRequest

/-- The outcome of a command in its surroundings. -/
def run (request : CommandRequest) (workspace : Workspace) : CommandOutcome :=
  match request with
  | .show request =>
      match request.header workspace with
      | .ok text => ⟨text ++ "\n", .ok 0⟩
      | .error e => ⟨"", .error e⟩
  | .tracks request =>
      match request.answer workspace with
      -- A question that is answered with no has exit status 1.
      | .ok answer => ⟨request.text answer, .ok (if answer then 0 else 1)⟩
      | .error e => ⟨"", .error e⟩
  | .followed request =>
      match request.answer workspace with
      | .ok answer => ⟨answer.text, .ok (if answer.followed.isSome then 0 else 1)⟩
      | .error e => ⟨"", .error e⟩

end CommandRequest

def Invocation.run (invocation : Invocation) (workspace : Workspace) : CommandOutcome :=
  invocation.request.run workspace

end CommitHeader
