import CommitHeader.Ref.Tracking
import CommitHeader.Text.Case

/-!
# Repository configuration

A configuration is a list of keys and values. A key has a section, perhaps a name, and a variable;
section and variable are the same in letters of either case, and the name, which may hold points, is
not. The last value of a key counts.

A snapshot keeps the two values of every local branch, so that tracking can be answered without the
configuration.
-/

namespace CommitHeader

/-- The keys and values of a configuration, the earliest first. -/
abbrev Config := List (String × String)

namespace Config

/-- A key with its section and variable in small letters. -/
def normalChars (key : List Char) : List Char :=
  match Text.cutFirst? '.' key with
  | none => Text.loweredChars key
  | some (sectionName, rest) =>
      match Text.cutLast? '.' rest with
      | none => Text.loweredChars sectionName ++ '.' :: Text.loweredChars rest
      | some (name, variableName) =>
          Text.loweredChars sectionName ++ '.' :: name ++ '.' :: Text.loweredChars variableName

/-- Whether two keys are the same. -/
def sameKey (a b : String) : Bool :=
  normalChars a.toList = normalChars b.toList

/-- All values of a key, the earliest first. -/
def values (config : Config) (key : String) : List String :=
  (config.filter fun entry => sameKey entry.1 key).map (·.2)

def value? (config : Config) (key : String) : Option String :=
  (config.values key).getLast?

/-- The name in a key of a section and a variable, both in small letters. -/
def nameIn? (sectionName variableName : String) (key : String) : Option String := do
  let rest ← Text.afterLead? (sectionName ++ ".") (String.ofList (normalChars key.toList))
  Text.beforeTail? ("." ++ variableName) rest

end Config

/-- What reading a key gives: its value, nothing, or a failure. -/
inductive ConfigAnswer
  | value (text : String)
  | absent
  | failed
deriving DecidableEq

/-- What reading a key of a configuration gives; it never fails. -/
def Config.answer (config : Config) (key : String) : ConfigAnswer :=
  match config.value? key with
  | some text => .value text
  | none => .absent

/-- What listing the local branches gives for one of them. -/
inductive LocalBranch
  | named (name : String)
  /-- The name is no text. -/
  | illegible
  /-- The branch or its name cannot be read. -/
  | unreadable
deriving DecidableEq

/-- Why a snapshot cannot be taken. -/
inductive SnapshotFault
  | config
  | branches
  | key (key : String)
deriving DecidableEq

/-- What a snapshot is taken of. What cannot be read at all is missing. -/
structure SnapshotSource where
  read? : Option (String → ConfigAnswer)
  branches? : Option (List LocalBranch)

/-- The values captured, by key; the first entry of a key counts. -/
abbrev ConfigSnapshot := List (String × String)

namespace ConfigSnapshot

/-- The value captured for a key, or the empty text. -/
def value (snapshot : ConfigSnapshot) : ConfigView := fun key =>
  (List.lookup key snapshot).getD ""

/-- A snapshot with what reading some keys gives, or the first key that cannot be read. -/
def capture (read : String → ConfigAnswer) :
    List String → ConfigSnapshot → Except String ConfigSnapshot
  | [], snapshot => .ok snapshot
  | key :: keys, snapshot =>
      match read key with
      | .value text => capture read keys ((key, text) :: snapshot)
      | .absent => capture read keys snapshot
      | .failed => .error key

/-- The keys of the branches of some names. -/
def keysOf (branches : List String) : List String :=
  branches.flatMap fun name => [mergeKey name, remoteKey name]

/-- The snapshot of some local branches, or the first key that cannot be read. A branch whose name
is no text is passed over. -/
def ofBranches (branches : List (Option String)) (read : String → ConfigAnswer) :
    Except String ConfigSnapshot :=
  capture read (keysOf (branches.filterMap id)) []

/-- A snapshot with what reading the keys of some branches gives. -/
def captureEach (read : String → ConfigAnswer) :
    List LocalBranch → ConfigSnapshot → Except SnapshotFault ConfigSnapshot
  | [], snapshot => .ok snapshot
  | .illegible :: branches, snapshot => captureEach read branches snapshot
  | .unreadable :: _, _ => .error .branches
  | .named name :: branches, snapshot =>
      match capture read [mergeKey name, remoteKey name] snapshot with
      | .ok snapshot => captureEach read branches snapshot
      | .error key => .error (.key key)

def ofSource (source : SnapshotSource) : Except SnapshotFault ConfigSnapshot :=
  match source.read?, source.branches? with
  | none, _ => .error .config
  | some _, none => .error .branches
  | some read, some branches => captureEach read branches []

end ConfigSnapshot

end CommitHeader
