import CommitHeader.Repository.Layout

/-!
# Workspaces

All that a command can see: a repository and where it lies, the files around it, the directory it is
run in, the settings of the user, the time and the offset of local clocks.
-/

namespace CommitHeader

/-- The surroundings of a command. -/
structure Workspace where
  repository : Repository
  /-- Where the repository lies. -/
  location : Place
  tree : FileTree
  /-- The directory in which the command is run. -/
  directory : Place
  /-- The settings file of the user, and how messages call it. -/
  settingsPlace : Place
  settingsPath : String
  now : Calendar.Instant
  /-- The offset of local clocks, in seconds east. -/
  localOffset : Int

namespace Workspace

/-- The directory that holds the data of the repository. -/
def gitDirectory (workspace : Workspace) : Place :=
  if workspace.repository.bare then workspace.location else workspace.location ++ [".git"]

/-- The workspace with the directories and files of its repository in the tree. -/
def withRepository (workspace : Workspace) : Workspace :=
  let own := Repository.dataDirectories.map (workspace.gitDirectory ++ ·)
  let files := workspace.repository.dataFiles.map fun (place, content) =>
    (workspace.gitDirectory ++ place, content)
  { workspace with
    tree := {
      directories := workspace.location :: own ++ workspace.tree.directories
      files := files ++ workspace.tree.files } }

/-- The place that a path names, or the directory of the command. -/
def placeAt? (workspace : Workspace) : Option String → Option Place
  | none => some workspace.directory
  | some path => workspace.tree.resolve? workspace.directory path

end Workspace

end CommitHeader
