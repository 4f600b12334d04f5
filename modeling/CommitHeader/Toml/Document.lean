import CommitHeader.Toml.Statement

/-!
# TOML documents

The table that the statements of a document make. An entry goes into the table of the last header
before it.
-/

namespace CommitHeader.Toml

/-- A document read in part: the table of the whole, and the path of the last header. -/
structure Outline where
  root : Entries := []
  path : List String := []

namespace Outline

/-- A path cut into its start and its last key. -/
def splitLast? (path : List String) : Option (List String × String) :=
  path.getLast?.map fun key => (path.dropLast, key)

/-- The outline with one more statement. -/
def add? (outline : Outline) : Statement → Option Outline
  | .entry path value =>
      (Entries.within? (Entries.assign? value path) outline.path outline.root).map fun root =>
        { outline with root }
  | .header path => do
      let (start, key) ← splitLast? path
      let root ← Entries.within? (Entries.openTable? key) start outline.root
      return { root, path }
  | .element path => do
      let (start, key) ← splitLast? path
      let root ← Entries.within? (Entries.pushTable? key) start outline.root
      return { root, path }

end Outline

/-- The table that some statements make. -/
def tableOf? (statements : List Statement) : Option Table :=
  (statements.foldlM Outline.add? {}).map fun outline => closeAll outline.root

/-- The table that a document stands for. A byte order mark at its start does not count. -/
def read? (text : String) : Option Table :=
  let cs := match text.toList with
    | '\uFEFF' :: rest => rest
    | cs => cs
  (Statement.all? cs).bind tableOf?

end CommitHeader.Toml
