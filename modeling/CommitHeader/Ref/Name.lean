import CommitHeader.Text.Cut

/-!
# Names of references

A reference is a local branch, a remote-tracking branch, a tag or something else, by the directory
of its complete name. A remote-tracking branch belongs to a remote, which is the first segment of
its path unless it is known to be longer.

The parts of a name may also be kept side by side, filled in by taking leads off the complete name
one after the other, with an empty text where a lead is missing.
-/

namespace CommitHeader

def headsDirectory : String := "refs/heads/"

def remotesDirectory : String := "refs/remotes/"

def tagsDirectory : String := "refs/tags/"

/-- The mark after the name of a tag that stands for what the tag points at. -/
def peelMark : String := "^\x7b\x7d"

/-- The name of a reference by its kind. -/
inductive RefName
  | head (name : String)
  | tracking (remote name : String)
  | tag (name : String) (peeled : Bool)
  | other (name : String)
deriving DecidableEq

namespace RefName

/-- The complete name. -/
def complete : RefName → String
  | .head name => headsDirectory ++ name
  | .tracking remote name => remotesDirectory ++ remote ++ "/" ++ name
  | .tag name peeled => tagsDirectory ++ name ++ if peeled then peelMark else ""
  | .other name => name

/-- The name within its directory. -/
def short : RefName → String
  | .head name | .tracking _ name | .tag name _ | .other name => name

def remote? : RefName → Option String
  | .tracking remote _ => some remote
  | _ => none

/-- The remote of a remote-tracking branch, and nothing for other references. -/
def remoteName (name : RefName) : String :=
  name.remote?.getD ""

def isHead : RefName → Bool
  | .head _ => true
  | _ => false

def isRemote : RefName → Bool
  | .tracking _ _ => true
  | _ => false

def isTag : RefName → Bool
  | .tag _ _ => true
  | _ => false

/-- The first segment of a path and what follows its slash. -/
def splitSegment? (path : String) : Option (String × String) :=
  (Text.cutFirst? '/' path.toList).map fun cut => (String.ofList cut.1, String.ofList cut.2)

/-- The remote-tracking branch that a complete name stands for, with the first segment of its path
as the remote. -/
def ofTracking? (complete : String) : Option RefName :=
  match (Text.afterLead? remotesDirectory complete).bind splitSegment? with
  | some (remote, name) => if remote.isEmpty then none else some (.tracking remote name)
  | none => none

/-- The name of a tag, given what follows the directory. -/
def ofTagPath (path : String) : RefName :=
  match Text.beforeTail? peelMark path with
  | some name => .tag name true
  | none => .tag path false

/-- The reference that a complete name stands for. -/
def ofComplete (complete : String) : RefName :=
  match ofTracking? complete with
  | some name => name
  | none =>
      match Text.afterLead? headsDirectory complete with
      | some name => .head name
      | none =>
          match Text.afterLead? tagsDirectory complete with
          | some path => ofTagPath path
          | none => .other complete

/-- A remote that a reference does not belong to. -/
structure Mismatch where
  complete : String
  remote : String
deriving DecidableEq

def Mismatch.message (mismatch : Mismatch) : String :=
  "reference \x60" ++ mismatch.complete ++ "\x60 does not belong to remote \x60" ++
    mismatch.remote ++ "\x60"

/-- The remote-tracking branch of a given remote that a complete name stands for. -/
def ofRemote (complete remote : String) : Except Mismatch RefName :=
  let name? := if remote.isEmpty then none
    else Text.afterLead? (remotesDirectory ++ remote ++ "/") complete
  match name? with
  | some name => .ok (.tracking remote name)
  | none => .error ⟨complete, remote⟩

/-- The name that is read from a complete name, with its remote if that is known. -/
def read (complete : String) (remote? : Option String) : Except Mismatch RefName :=
  match remote? with
  | some remote => ofRemote complete remote
  | none => .ok (ofComplete complete)

/-- The kinds of references. -/
inductive Kind
  | head
  | tracking
  | tag
  | other
deriving DecidableEq

def kind : RefName → Kind
  | .head _ => .head
  | .tracking _ _ => .tracking
  | .tag _ _ => .tag
  | .other _ => .other

/-- The parts of a name, side by side. -/
structure Fields where
  complete : String
  remote? : Option String
  short : String
  kind : Kind
deriving DecidableEq

def fields (name : RefName) : Fields :=
  ⟨name.complete, name.remote?, name.short, name.kind⟩

namespace Fields

/-- What follows a remote in a complete name. -/
def tail? (complete remote : String) : Option String :=
  ((Text.afterLead? remotesDirectory complete).bind (Text.afterLead? remote)).bind
    (Text.afterLead? "/")

/-- The remote that leads a complete name: the first segment, if there is another one. -/
def leading? (complete : String) : Option String :=
  (((Text.afterLead? remotesDirectory complete).bind splitSegment?).map Prod.fst).filter (· ≠ "")

/-- The fields for a complete name and a remote. A remote that does not lead the path leaves the
short name empty. -/
def fill (complete : String) (remote? : Option String) : Fields :=
  match remote? with
  | some remote => ⟨complete, some remote, (tail? complete remote).getD "", .tracking⟩
  | none =>
      match Text.afterLead? headsDirectory complete with
      | some short => ⟨complete, none, short, .head⟩
      | none =>
          match Text.afterLead? tagsDirectory complete with
          | some path => ⟨complete, none, (Text.beforeTail? peelMark path).getD path, .tag⟩
          | none => ⟨complete, none, complete, .other⟩

/-- The fields for a complete name, with its remote if that is known. -/
def read (complete : String) (remote? : Option String) : Except Mismatch Fields :=
  match remote? with
  | some remote =>
      if remote ≠ "" ∧ (tail? complete remote).isSome then .ok (fill complete (some remote))
      else .error ⟨complete, remote⟩
  | none => .ok (fill complete (leading? complete))

end Fields

end RefName

end CommitHeader
