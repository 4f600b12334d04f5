import CommitHeader.ObjectId
import CommitHeader.Ref.Name
import CommitHeader.Text.Quoted

/-!
# Tracking

Which remote-tracking branch a reference follows. The configuration of a repository says so in two
values for each branch: the remote, and the branch to merge as the remote names it.
-/

namespace CommitHeader

/-- A reference and the object that it points at. -/
structure Ref where
  name : RefName
  target : ObjectId
deriving DecidableEq

def Ref.described (ref : Ref) : String :=
  let remote := match ref.name.remote? with
    | some remote => "Some(" ++ Text.Quoted.text remote ++ ")"
    | none => "None"
  "GitRef \x7b complete_name: " ++ Text.Quoted.text ref.name.complete ++ ", target: " ++
    ref.target.described ++ ", remote: " ++ remote ++ ", .. \x7d"

/-- The values of a configuration by key; a key that is not set has the empty value. -/
abbrev ConfigView := String → String

/-- The key of the branch that a branch of this name merges. -/
def mergeKey (name : String) : String :=
  "branch." ++ name ++ ".merge"

/-- The key of the remote that a branch of this name follows. -/
def remoteKey (name : String) : String :=
  "branch." ++ name ++ ".remote"

namespace RefName

/-- The configured branch to merge, without the directory of branches. -/
def mergesWith (config : ConfigView) (name : RefName) : String :=
  let merged := config (mergeKey name.short)
  (Text.afterLead? headsDirectory merged).getD merged

def tracksRemote (config : ConfigView) (name : RefName) : String :=
  config (remoteKey name.short)

/-- Whether a reference follows a candidate. The candidate is a remote-tracking branch and the
reference is none, and both configured values are there and name the candidate. -/
def tracks (config : ConfigView) (name candidate : RefName) : Bool :=
  match name, candidate with
  | .tracking _ _, _ => false
  | _, .tracking remote short =>
      let merged := config (mergeKey name.short)
      let followed := config (remoteKey name.short)
      merged ≠ "" && followed ≠ "" && merged = headsDirectory ++ short && followed = remote
  | _, _ => false

end RefName

/-- The first of some candidates that a reference follows. -/
def findTracked? (config : ConfigView) (name : RefName) (candidates : List Ref) : Option Ref :=
  candidates.find? fun candidate => name.tracks config candidate.name

end CommitHeader
