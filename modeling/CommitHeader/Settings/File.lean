import CommitHeader.Settings.Table
import CommitHeader.Text.Utf8
import CommitHeader.Toml.Document
import CommitHeader.Toml.StringForm.Writer

/-!
# Settings files

The text that settings are saved as, what a file says when it is loaded, and where it lies. A file
that is not there stands for the defaults, and settings that make no sense are not loaded.
-/

namespace CommitHeader

/-- What a path of a file system leads to. -/
inductive StoredFile
  | missing
  | directory
  | file (content : List UInt8)
deriving DecidableEq

namespace Settings

/-- A line with a key and a value. -/
def entryLine (key : String) (value : List Char) : List Char :=
  key.toList ++ [' ', '=', ' '] ++ value ++ ['\n']

def textLine (key text : String) : List Char :=
  entryLine key (Toml.StringForm.write text)

/-- The text that settings are saved as. -/
def write (settings : Settings) : String :=
  String.ofList <|
    textLine "style" settings.alignment.name ++
    entryLine "links"
      (if settings.links then ['t', 'r', 'u', 'e'] else ['f', 'a', 'l', 's', 'e']) ++
    textLine "commit_link_scheme" settings.scheme ++
    textLine "date_format" settings.pattern ++
    ['\n', '[', 'l', 'a', 'b', 'e', 'l', 's', ']', '\n'] ++
    textLine "author" settings.labels.author ++
    textLine "author_date" settings.labels.authorDate ++
    textLine "committer" settings.labels.committer ++
    textLine "commit_date" settings.labels.commitDate ++
    textLine "commit_hash" settings.labels.commitHash ++
    textLine "children" settings.labels.children ++
    textLine "parents" settings.labels.parents

def saved (settings : Settings) : StoredFile :=
  .file settings.write.toUTF8.toList

/-- The settings that a text says, sensible or not. -/
def read? (text : String) : Option Settings :=
  (Toml.read? text).bind ofTable?

/-- Why a file gives no settings. -/
inductive LoadError
  /-- There is no text in it. -/
  | unreadable
  /-- The text is no table of settings. -/
  | malformed
  /-- The settings make no sense. -/
  | faulty (fault : Fault)
deriving DecidableEq

/-- The settings that a text says, if they make sense. -/
def ofText (text : String) : Except LoadError Settings :=
  match read? text with
  | none => .error .malformed
  | some settings =>
      match settings.fault? with
      | some fault => .error (.faulty fault)
      | none => .ok settings

def load : StoredFile → Except LoadError Settings
  | .missing => .ok {}
  | .directory => .error .unreadable
  | .file content =>
      match Text.Utf8.decode? content with
      | some text => ofText text
      | none => .error .unreadable

/-- A path below a directory; a slash at the directory's end is not doubled. -/
def joinPath (directory name : String) : String :=
  match directory.toList.getLast? with
  | none | some '/' => directory ++ name
  | some _ => directory ++ "/" ++ name

/-- The directory of settings: below the directory of the user's configuration if that is given as
an absolute path, and else below the one in the user's home. -/
def directory (home : String) (configHome : Option String) : String :=
  match configHome with
  | some path =>
      if path.toList.head? = some '/' then joinPath path "revhead" else fromHome
  | none => fromHome
where
  fromHome := joinPath (joinPath home ".config") "revhead"

def fileIn (directory : String) : String :=
  joinPath directory "header.toml"

end Settings

end CommitHeader
