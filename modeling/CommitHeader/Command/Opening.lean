import CommitHeader.Command.Failure
import CommitHeader.Workspace.Enclosing

/-!
# What a command opens

The repository that a command works on and the settings that it loads, each named by a path or taken
from the surroundings.
-/

namespace CommitHeader

namespace Workspace

/-- The repository around a path, or around the directory of the command. -/
def openRepository (workspace : Workspace) (path : Option String) : Except Failure Repository :=
  match (workspace.placeAt? path).bind workspace.enclosing?, path with
  | some _, _ => .ok workspace.repository
  | none, some path => .error (.noRepositoryAt path)
  | none, none => .error .outsideRepository

/-- The settings in the file at a path, or in the user's own. -/
def loadSettings (workspace : Workspace) (path : Option String) : Except Failure Settings :=
  let (shown, stored) := match path with
    | some path => (path, workspace.tree.stored workspace.directory path)
    | none =>
        (workspace.settingsPath,
          workspace.tree.stored [] ("/".intercalate workspace.settingsPlace))
  match Settings.load stored with
  | .ok settings => .ok settings
  | .error cause => .error (.settings shown cause)

end Workspace

end CommitHeader
