import CommitHeader.Store.Message
import CommitHeader.Workspace

/-!
# The search for a repository

A repository encloses the places below it, and those from which a link file on the way up leads to
its data. The search begins at a place and goes up to the root; a link that leads nowhere ends it.
-/

namespace CommitHeader

/-- A place and those above it, up to the root. -/
def Place.upwards : Place → List Place
  | [] => [[]]
  | part :: rest => (Place.upwards rest).map (part :: ·) ++ [[]]

namespace Workspace

/-- What a search for the repository learns at one place. -/
inductive Sign
  /-- The repository is here. -/
  | found
  /-- There is a link, and it leads nowhere. -/
  | broken
  /-- The search goes on. -/
  | absent
deriving DecidableEq

/-- The path in a link file. It stands after a word that says that it is one, between spaces. -/
def linkedPath? (content : List UInt8) : Option String := do
  let text ← String.fromUTF8? ⟨(content.reverse.dropWhile Message.isSpace).reverse.toArray⟩
  let path ← Text.afterLead? "gitdir:" text
  String.fromUTF8? ⟨(path.toUTF8.toList.dropWhile Message.isSpace).toArray⟩

/-- What a place itself says of the repository. -/
def signAt (workspace : Workspace) (place : Place) : Sign :=
  if place = workspace.gitDirectory then .found
  else
    match place.getLast?, workspace.tree.content? place with
    | some ".git", some content =>
        match (linkedPath? content).bind (workspace.tree.resolve? place.dropLast) with
        | none => .broken
        | some target => if target = workspace.gitDirectory then .found else .absent
    | _, _ => .absent

/-- The working directory of the repository that encloses a place; a bare one has none and gives
its own place. -/
def enclosing? (workspace : Workspace) (place : Place) : Option Place :=
  -- On the way up, what is called `.git` in a place comes before the place itself.
  let signs := place.upwards.flatMap fun above => [above ++ [".git"], above]
  match (signs.map workspace.signAt).find? (· ≠ .absent) with
  | some .found => some workspace.location
  | _ => none

end Workspace

end CommitHeader
