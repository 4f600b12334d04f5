import CommitHeader.Ref.Tracking
import CommitHeader.Repository.Remote

/-!
# Listing branches

The references of the local and remote-tracking branches of a repository, in the order in which it
gives them. A branch that stands for another one, or whose name is no text, is left out.
-/

namespace CommitHeader

/-- A branch as a repository gives it. -/
structure BranchEntry where
  /-- The complete name, if it is text. -/
  complete? : Option String
  /-- What the branch points at, unless it stands for another branch. -/
  target? : Option ObjectId
  /-- Whether it is a remote-tracking branch. -/
  isRemote : Bool
  /-- What the repository says about its remote. -/
  remote : RemoteAnswer := .unknown
deriving DecidableEq

namespace BranchEntry

/-- The name of a branch. That of a remote-tracking branch is read with its remote if that is known;
it fails if the remote does not lead the path. -/
def name (entry : BranchEntry) (complete : String) : Except RefName.Mismatch RefName :=
  match entry.isRemote, entry.remote with
  | true, .named remote => RefName.ofRemote complete remote
  | _, _ => .ok (RefName.ofComplete complete)

/-- The reference of a branch, or none if it is left out. -/
def ref? (entry : BranchEntry) : Except RefName.Mismatch (Option Ref) :=
  match entry.complete?, entry.target? with
  | some complete, some target => (entry.name complete).map fun name => some ⟨name, target⟩
  | _, _ => .ok none

end BranchEntry

/-- The references of some branches. A single remote that does not lead the path of its branch makes
the whole listing fail. -/
def listRefs : List BranchEntry → Except RefName.Mismatch (List Ref)
  | [] => .ok []
  | entry :: entries =>
      match entry.ref? with
      | .error e => .error e
      | .ok ref =>
          match listRefs entries with
          | .error e => .error e
          | .ok refs => .ok (ref.toList ++ refs)

/-- The reference of a complete name or, failing that, of a name within a directory. -/
def findRef? (refs : List Ref) (name directory : String) : Option Ref :=
  match refs.find? fun ref => ref.name.complete = name with
  | some ref => some ref
  | none => refs.find? fun ref => ref.name.complete = directory ++ name

end CommitHeader
