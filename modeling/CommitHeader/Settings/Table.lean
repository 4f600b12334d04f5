import CommitHeader.Settings
import CommitHeader.Toml.Value

/-!
# Settings in a table

A table of settings overlays the defaults: a key that is there must have a value of its kind, and a
key that is not leaves the default in place. Keys of other names change nothing, as long as every
number in them can be represented.
-/

namespace CommitHeader.Settings

open Toml (Table Value)

def keys : List String :=
  ["style", "links", "commit_link_scheme", "date_format", "labels"]

/-- The keys of a table of labels, in the order in which an array gives their values. -/
def labelKeys : List String :=
  ["author", "author_date", "committer", "commit_date", "commit_hash", "children", "parents"]

/-- The value of a key as `read?` takes it, or the default. -/
def overlaid {α : Type} (table : Table) (key : String) (read? : Value → Option α) (missing : α) :
    Option α :=
  match table.find? key with
  | none => some missing
  | some value => read? value

/-- Whether every number under keys of other names can be represented. -/
def othersRepresentable (known : List String) (table : Table) : Bool :=
  table.all fun entry => known.contains entry.1 || entry.2.isRepresentable

/-- Whether a value is a collection without items. -/
def isEmptyCollection : Value → Bool
  | .array [] => true
  | .table [] => true
  | _ => false

/-- The alignment of exactly this name. -/
def alignmentNamed? (name : String) : Option Alignment :=
  [Alignment.tabs, .spaces].find? fun alignment => alignment.name = name

/-- The alignment that a value names: a string, or a table whose only key has an empty value. -/
def alignmentOf? : Value → Option Alignment
  | .string name => alignmentNamed? name
  | .table [(name, value)] => if isEmptyCollection value then alignmentNamed? name else none
  | _ => none

def labelsOfTable? (table : Table) : Option Labels := do
  let missing : Labels := {}
  let author ← overlaid table "author" Value.string? missing.author
  let authorDate ← overlaid table "author_date" Value.string? missing.authorDate
  let committer ← overlaid table "committer" Value.string? missing.committer
  let commitDate ← overlaid table "commit_date" Value.string? missing.commitDate
  let commitHash ← overlaid table "commit_hash" Value.string? missing.commitHash
  let children ← overlaid table "children" Value.string? missing.children
  let parents ← overlaid table "parents" Value.string? missing.parents
  if othersRepresentable labelKeys table then
    some { author, authorDate, committer, commitDate, commitHash, children, parents }
  else none

/-- The labels that a list of texts gives in order; the rest keep their defaults. -/
def labelsOfTexts (texts : List String) : Labels :=
  let missing : Labels := {}
  { author := texts[0]?.getD missing.author
    authorDate := texts[1]?.getD missing.authorDate
    committer := texts[2]?.getD missing.committer
    commitDate := texts[3]?.getD missing.commitDate
    commitHash := texts[4]?.getD missing.commitHash
    children := texts[5]?.getD missing.children
    parents := texts[6]?.getD missing.parents }

/-- The labels that a value names: by key, or in an array whose further items do not count. A date
or time counts as a table without any of the keys. -/
def labelsOf? : Value → Option Labels
  | .table table => labelsOfTable? table
  | .array items => ((items.take labelKeys.length).mapM Value.string?).map labelsOfTexts
  | .moment _ => some {}
  | _ => none

/-- The settings of a table, sensible or not. -/
def ofTable? (table : Table) : Option Settings := do
  let missing : Settings := {}
  let alignment ← overlaid table "style" alignmentOf? missing.alignment
  let links ← overlaid table "links" Value.boolean? missing.links
  let scheme ← overlaid table "commit_link_scheme" Value.string? missing.scheme
  let pattern ← overlaid table "date_format" Value.string? missing.pattern
  let labels ← overlaid table "labels" labelsOf? missing.labels
  if othersRepresentable keys table then
    some { alignment, links, scheme, pattern, labels }
  else none

end CommitHeader.Settings
