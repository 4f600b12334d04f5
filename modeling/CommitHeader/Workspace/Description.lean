import CommitHeader.Toml.Document
import CommitHeader.Workspace

/-!
# Described workspaces

A workspace as a TOML document describes it: the objects, references, head and configuration of a
repository, the directories and files around it, the directory of the command and the time.

The root table has `now`, and perhaps `offset`, `directory`, `bare`, `head` and `directories`. The
arrays of tables are `object` (`id`, and either `kind` or `tree`, `parents`, `message`, `author` and
`committer`), `ref` (`name`, `target`), `config` (`key`, `value`) and `file` (`path`, `content`). A
person has `name`, `email`, `time` and perhaps `offset`. A target or head is an id, or `ref: ` and
the name of a reference.
-/

namespace CommitHeader.Description

open Toml (Table Value)

def text? (table : Table) (key : String) : Option String :=
  (table.find? key).bind Value.string?

def integer? (table : Table) (key : String) : Option Int :=
  (table.find? key).bind Value.integer?

def table? (table : Table) (key : String) : Option Table :=
  (table.find? key).bind Value.table?

/-- The items of a key, each as `read?` takes it; a missing key has none. -/
def items? {α : Type} (read? : Value → Option α) (table : Table) (key : String) :
    Option (List α) :=
  match table.find? key with
  | none => some []
  | some (.array items) => items.mapM read?
  | some _ => none

/-- The id that a text names. -/
def idOf? (text : String) : Option ObjectId :=
  (ObjectId.parse text).toOption

def bytesOf (text : String) : List UInt8 :=
  text.toUTF8.toList

def person? (table : Table) : Option Person := do
  return {
    name := bytesOf (← text? table "name")
    email := bytesOf (← text? table "email")
    seconds := ← integer? table "time"
    minutes := (integer? table "offset").getD 0 }

/-- An object and its id. -/
def object? (table : Table) : Option (ObjectId × StoredObject) := do
  let id ← (text? table "id").bind idOf?
  match text? table "kind" with
  | some "blob" => return (id, .blob)
  | some "damaged" => return (id, .damaged)
  | some _ => none
  | none =>
      return (id, .written {
        tree := ← (text? table "tree").bind idOf?
        parents := ← items? (fun item => item.string?.bind idOf?) table "parents"
        author := ← (table? table "author").bind person?
        committer := ← (table? table "committer").bind person?
        message := bytesOf (← text? table "message") })

def target? (text : String) : Option RefTarget :=
  match Text.afterLead? "ref: " text with
  | some name => some (.symbolic name)
  | none => (idOf? text).map .direct

def ref? (table : Table) : Option (String × RefTarget) := do
  return (← text? table "name", ← (text? table "target").bind target?)

/-- A key and a value of the configuration. -/
def setting? (table : Table) : Option (String × String) := do
  return (← text? table "key", ← text? table "value")

/-- The place of a path from the root. -/
def placeOf (path : String) : Place :=
  (FileTree.parts path).filter (· ≠ "")

/-- A file and where it lies. -/
def file? (table : Table) : Option (Place × List UInt8) := do
  return (placeOf (← text? table "path"), bytesOf (← text? table "content"))

/-- The head among some references. -/
def head? (refs : RefTable) (text : String) : Option RefTarget :=
  (target? text).map fun target =>
    match target with
    | .symbolic name => Repository.headAt refs name
    | .direct id => .direct id

/-- The repository that a table describes. A reference that is given twice is as it is given
last. -/
def repository? (table : Table) : Option Repository := do
  let refs := (← items? (·.table?.bind ref?) table "ref").reverse
  return {
    bare := table.find? "bare" matches some (.boolean true)
    objects := ← items? (·.table?.bind object?) table "object"
    refs
    head := ← head? refs ((text? table "head").getD "ref: refs/heads/main")
    config := ← items? (·.table?.bind setting?) table "config" }

/-- Where the settings of the user lie. -/
def settingsPath : String := Settings.fileIn (Settings.joinPath "config" "revhead")

/-- The workspace that a table describes. -/
def workspace? (table : Table) : Option Workspace := do
  let location := ["repo"]
  return Workspace.withRepository {
    repository := ← repository? table
    location
    tree := {
      directories := (← items? Value.string? table "directories").map placeOf
      files := ← items? (·.table?.bind file?) table "file" }
    directory := ((text? table "directory").map placeOf).getD location
    settingsPlace := placeOf settingsPath
    settingsPath
    now := { seconds := ← integer? table "now" }
    localOffset := (integer? table "offset").getD 0 }

/-- The workspace that a document describes. -/
def read? (document : String) : Option Workspace :=
  (Toml.read? document).bind workspace?

end CommitHeader.Description
