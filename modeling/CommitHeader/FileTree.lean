import CommitHeader.Settings.File
import CommitHeader.Text.Cut

/-!
# File trees

The directories and files below a root, and where relative paths lead in them. Every part of a path
is looked up in turn, so all but the last must be directories; nothing above the root is known.
-/

namespace CommitHeader

/-- The names on the way from the root to a place. -/
abbrev Place := List String

/-- The directories and files below a root. Directories on the way to others need not be listed. -/
structure FileTree where
  directories : List Place := []
  files : List (Place × List UInt8) := []

namespace FileTree

def isDirectory (tree : FileTree) (place : Place) : Bool :=
  place.isEmpty || tree.directories.any (place.isPrefixOf ·) ||
    tree.files.any fun file => place.isPrefixOf file.1.dropLast

/-- The content of the file at a place; the last one written there counts. -/
def content? (tree : FileTree) (place : Place) : Option (List UInt8) :=
  List.lookup place tree.files.reverse

def contains (tree : FileTree) (place : Place) : Bool :=
  tree.isDirectory place || (tree.content? place).isSome

/-- The parts of a path between its slashes. -/
def parts (path : String) : List String :=
  (Text.cutEach '/' path.toList).map String.ofList

/-- Where the parts of a path lead from a place that is there. -/
def follow? (tree : FileTree) (place : Place) : List String → Option Place
  | [] => some place
  | part :: parts =>
      if !tree.isDirectory place then none
      else if part = "" || part = "." then follow? tree place parts
      else if part = ".." then if place.isEmpty then none else follow? tree place.dropLast parts
      else if tree.contains (place ++ [part]) then follow? tree (place ++ [part]) parts
      else none

/-- Where a path leads from a directory. Absolute paths and the empty one lead nowhere. -/
def resolve? (tree : FileTree) (directory : Place) (path : String) : Option Place :=
  match path.toList with
  | [] | '/' :: _ => none
  | _ => tree.follow? directory (parts path)

/-- What there is at the end of a path. -/
def stored (tree : FileTree) (directory : Place) (path : String) : StoredFile :=
  match tree.resolve? directory path with
  | none => .missing
  | some place =>
      match tree.content? place with
      | some content => .file content
      | none => .directory

end FileTree

end CommitHeader
