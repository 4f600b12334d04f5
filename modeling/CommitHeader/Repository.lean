import CommitHeader.History.Children
import CommitHeader.Ref.Listing
import CommitHeader.Ref.Resolution
import CommitHeader.Revspec
import CommitHeader.Store

/-!
# Repositories

A repository has objects, references, a head and a configuration. References may stand for other
references; the head stands for a branch, which need not exist yet, or points at a commit itself.
-/

namespace CommitHeader

structure Repository where
  bare : Bool := false
  objects : ObjectStore := []
  refs : RefTable := []
  head : RefTarget := .symbolic "refs/heads/main"
  config : Config := []

namespace Repository

/-- The references of a repository, the head included. -/
def references (repository : Repository) : RefTable :=
  ("HEAD", repository.head) :: repository.refs

/-- What is checked out: the object of the head itself, or where the reference leads that the head
stands for. -/
def resolveHead (repository : Repository) : RefEnd :=
  match repository.head with
  | .direct id => .object "HEAD" id
  | .symbolic name => repository.references.resolve name

/-- The head as a repository sets it: it stands for a branch, or for a reference that does not
exist; of any other reference it takes the object. -/
def headAt (refs : RefTable) (name : String) : RefTarget :=
  if (Text.afterLead? headsDirectory name).isSome then .symbolic name
  else
    match (refs.resolve name).object? with
    | some (_, id) => .direct id
    | none => .symbolic name

/-- Whether a name lies in a directory. -/
def isBelow (directory name : String) : Bool :=
  (Text.afterLead? directory name).isSome

/-- The references of the local and remote-tracking branches, by name. -/
def branchRefs (repository : Repository) : RefTable :=
  (repository.refs.filter fun ref =>
    isBelow headsDirectory ref.1 || isBelow remotesDirectory ref.1).mergeSort fun a b => a.1 ≤ b.1

def branches (repository : Repository) : List BranchEntry :=
  repository.branchRefs.map fun (name, target) =>
    { complete? := some name
      target? := match target with
        | .direct id => some id
        | .symbolic _ => none
      isRemote := isBelow remotesDirectory name
      remote := repository.config.remoteOf name }

def localBranches (repository : Repository) : List String :=
  repository.branchRefs.filterMap fun ref => Text.afterLead? headsDirectory ref.1

/-- The tracking configuration of the local branches, or the first key that cannot be read. -/
def snapshot (repository : Repository) : Except String ConfigSnapshot :=
  ConfigSnapshot.ofBranches (repository.localBranches.map some) repository.config.answer

/-- The only object whose id starts with the digits of a text, which are at least four and fewer
than all. -/
def abbreviated? (repository : Repository) (text : String) : Option ObjectId :=
  let digits := Text.loweredChars text.toList
  if 4 ≤ digits.length && digits.length < 40 && digits.all fun c => (Text.Hex.value? c).isSome then
    match (repository.objects.map Prod.fst).eraseDups.filter fun id =>
        (Text.dropLead? digits id.digits).isSome with
    | [id] => some id
    | _ => none
  else none

/-- The complete names that a short name may stand for, in the order in which they are tried. -/
def candidates (name : String) : List String :=
  [name, "refs/" ++ name, tagsDirectory ++ name, headsDirectory ++ name, remotesDirectory ++ name,
    remotesDirectory ++ name ++ "/HEAD"]

/-- Where a reference of a complete or short name leads: the first of the names that it may stand
for decides, unless that leads to nothing. -/
def referenced (repository : Repository) (name : String) : RefEnd :=
  (((candidates name).map repository.references.resolve).find? (· ≠ .missing)).getD .missing

/-- The object that the base of a revision names: by its id, by a reference, or by the start of its
id, whichever comes first. A reference that leads on and on names none. -/
def base? (repository : Repository) (text : String) : Option ObjectId :=
  match (ObjectId.parse text).toOption.filter fun id => (repository.objects.find? id).isSome with
  | some id => some id
  | none =>
      match repository.referenced text with
      | .object _ id => some id
      | .tooDeep => none
      | .missing => repository.abbreviated? text

/-- The commit that lies the first parent away this many times. -/
def ancestor? (repository : Repository) (id : ObjectId) : Nat → Option ObjectId
  | 0 => some id
  | count + 1 =>
      match repository.objects.commit? id with
      | some record =>
          match record.parents with
          | first :: _ => ancestor? repository first count
          | [] => none
      | none => none

/-- The commit that a step leads to. -/
def step? (repository : Repository) (id : ObjectId) : RevisionStep → Option ObjectId
  | .peel | .parent 0 => some id
  | .parent (number + 1) =>
      (repository.objects.commit? id).bind fun record => record.parents[number]?
  | .ancestor count => repository.ancestor? id count

/-- The commit that steps lead to. Each of them starts from a commit. -/
def walk? (repository : Repository) (id : ObjectId) :
    List RevisionStep → Option (ObjectId × CommitRecord)
  | [] => (repository.objects.commit? id).map fun record => (id, record)
  | step :: steps =>
      match repository.objects.commit? id with
      | some _ => (repository.step? id step).bind fun next => walk? repository next steps
      | none => none

/-- The commit that an expression names. -/
def revision? (repository : Repository) (text : String) : Option (ObjectId × CommitRecord) := do
  let spec ← Revspec.ofText? text
  let start ← repository.base? spec.base
  repository.walk? start spec.steps

/-- The commits of a repository as a history. -/
def history (repository : Repository) : History :=
  repository.objects.filterMap fun (id, object) =>
    match object with
    | .commit record => some ⟨id, record.parents, record.committer.seconds⟩
    | _ => none

/-- The commit that a branch leads to, `some none` for an object of another kind and for a branch
that leads to nothing. There is no answer if the branch leads on and on, or to an object that cannot
be read. -/
def tip? (repository : Repository) (name : String) : Option (Option ObjectId) :=
  match repository.references.resolve name with
  | .missing => some none
  | .tooDeep => none
  | .object _ id =>
      match repository.objects.find? id with
      | some (.commit _) => some (some id)
      | some .blob => some none
      | some .damaged | none => none

/-- The commits at the branches, if every branch has an answer. -/
def tips? (repository : Repository) : Option (List ObjectId) :=
  (repository.branchRefs.mapM fun ref => repository.tip? ref.1).map fun tips => tips.filterMap id

/-- Why the children of a commit are not found. -/
inductive WalkError
  /-- No commit has this id. -/
  | unknown
  /-- Something on the way cannot be read. -/
  | unreadable
deriving DecidableEq

/-- The commits on any branch that have `id` as a parent. -/
def children (repository : Repository) (id : ObjectId) : Except WalkError (List ObjectId) :=
  match repository.tips? with
  | none => .error .unreadable
  | some tips =>
      if (repository.objects.commit? id).isNone then .error .unknown
      else
        match repository.history.children? tips id with
        | some ids => .ok ids
        | none => .error .unreadable

end Repository

end CommitHeader
