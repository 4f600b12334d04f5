import CommitHeader.Command.Opening
import CommitHeader.Terminal

/-!
# Questions about branches

Whether a local branch follows a remote-tracking one, and which one it follows, with the answers in
words.
-/

namespace CommitHeader

/-- The branches of a repository and the configuration that tells how they follow each other. -/
structure BranchView where
  refs : List Ref
  config : ConfigView

namespace BranchView

/-- The local branch of a name, complete or short. -/
def localBranch (view : BranchView) (name : String) : Except Failure Ref :=
  match (findRef? view.refs name headsDirectory).filter fun ref => ref.name.isHead with
  | some ref => .ok ref
  | none => .error (.branchNotFound name)

/-- Whether a local branch follows the reference of a name. A name without a reference is followed
by none. -/
def tracks (view : BranchView) (name remote : String) : Except Failure Bool :=
  (view.localBranch name).map fun ref =>
    match findRef? view.refs remote remotesDirectory with
    | some candidate => ref.name.tracks view.config candidate.name
    | none => false

/-- A local branch and the remote-tracking branch that it follows. -/
def followed (view : BranchView) (name : String) : Except Failure (Ref × Option Ref) :=
  (view.localBranch name).map fun ref =>
    (ref, findTracked? view.config ref.name (view.refs.filter fun other => other.name.isRemote))

end BranchView

namespace Repository

def branchView (repository : Repository) : Except Failure BranchView :=
  match repository.snapshot with
  | .error key => .error (.unreadableKey key)
  | .ok snapshot =>
      match listRefs repository.branches with
      | .ok refs => .ok ⟨refs, snapshot.value⟩
      | .error cause => .error (.mismatch cause)

/-- The name of the branch that is checked out. -/
def checkedOut (repository : Repository) : Except Failure String :=
  match repository.resolveHead.object? with
  | none => .error .unreadableHead
  | some (complete, _) =>
      match Text.afterLead? headsDirectory complete with
      | some name => .ok name
      | none => .error .detachedHead

end Repository

/-- The question whether a branch follows another one. -/
structure TracksRequest where
  branch : String
  remote : String
  repository : Option String := none
deriving DecidableEq

/-- The question which branch a branch follows, the one checked out unless it is named. -/
structure FollowedRequest where
  branch : Option String := none
  repository : Option String := none
deriving DecidableEq

namespace TracksRequest

def answer (request : TracksRequest) (workspace : Workspace) : Except Failure Bool := do
  let repository ← workspace.openRepository request.repository
  let view ← repository.branchView
  view.tracks request.branch request.remote

def text (request : TracksRequest) (tracks : Bool) : String :=
  let branch := Terminal.refName request.branch
  let remote := Terminal.refName request.remote
  if tracks then Terminal.Notice.success.line (branch ++ " tracks " ++ remote)
  else Terminal.Notice.info.line (branch ++ " does not track " ++ remote)

end TracksRequest

/-- The answer to the question which branch a branch follows, with the configuration it rests on. -/
structure FollowedAnswer where
  branch : Ref
  followed : Option Ref
  config : ConfigView

namespace FollowedRequest

def answer (request : FollowedRequest) (workspace : Workspace) : Except Failure FollowedAnswer := do
  let repository ← workspace.openRepository request.repository
  let name ← match request.branch with
    | some name => pure name
    | none => repository.checkedOut
  let view ← repository.branchView
  let (branch, followed) ← view.followed name
  return { branch, followed, config := view.config }

end FollowedRequest

/-- The answer in words: the branch that is followed and the start of its id, or why there is
none. -/
def FollowedAnswer.text (answer : FollowedAnswer) : String :=
  let name := answer.branch.name
  match answer.followed with
  | some ref =>
      Terminal.refName (ref.name.remoteName ++ "/" ++ ref.name.short) ++ " " ++
        Terminal.commitId ref.target.short ++ "\n"
  | none =>
      let merged := name.mergesWith answer.config
      Terminal.Notice.warning.line <|
        if merged.isEmpty then name.short ++ " has no upstream configured"
        else
          name.short ++ " is configured to track " ++ name.tracksRemote answer.config ++ "/" ++
            merged ++ ", but no such remote-tracking branch exists"

end CommitHeader
