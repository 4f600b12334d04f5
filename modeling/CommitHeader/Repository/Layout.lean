import CommitHeader.FileTree
import CommitHeader.Repository

/-!
# The files of a repository

The directories and files that hold the data of a repository, below the directory of its data.
Objects are kept compressed; all else is text.
-/

namespace CommitHeader.Repository

/-- The directories that every repository has. -/
def dataDirectories : List Place :=
  [["hooks"], ["info"], ["objects", "info"], ["objects", "pack"], ["refs", "heads"],
    ["refs", "tags"]]

def refLine : RefTarget → String
  | .direct id => id.hex ++ "\n"
  | .symbolic name => "ref: " ++ name ++ "\n"

/-- Two hexadecimal digits that name the directory of an object, and the other digits, which name
its file. -/
def objectPlace (id : ObjectId) : Place :=
  ["objects", String.ofList (id.digits.take 2), String.ofList (id.digits.drop 2)]

/-- The first bytes of a compressed object. They are no text, and nothing is read after them. -/
def compressed : List UInt8 := [0x78, 0x01, 0xff]

/-- A text in a configuration file, with a backslash before each quotation mark and backslash. -/
def escaped (text : String) : String :=
  String.ofList (text.toList.flatMap fun c => if c = '"' || c = '\\' then ['\\', c] else [c])

/-- The header of the section of a key, and the variable. -/
def sectionOf (key : String) : String × String :=
  match Text.cutFirst? '.' key.toList with
  | none => ("", key)
  | some (sectionName, rest) =>
      match Text.cutLast? '.' rest with
      | none => ("[" ++ String.ofList sectionName ++ "]\n", String.ofList rest)
      | some (name, variableName) =>
          ("[" ++ String.ofList sectionName ++ " \"" ++ escaped (String.ofList name) ++ "\"]\n",
            String.ofList variableName)

/-- A value as a configuration file has it, within quotation marks if it is empty, has a space at
either end, or has a mark that begins a comment. -/
def quotedValue (value : String) : String :=
  let cs := value.toList
  if cs.isEmpty || cs.head? = some ' ' || cs.getLast? = some ' ' || cs.contains ';' ||
      cs.contains '#' then
    "\"" ++ escaped value ++ "\""
  else escaped value

/-- The lines of some entries of a configuration, given the header of the section before them. An
entry of another section gets a header of its own. -/
def entryLines (header : String) : Config → String
  | [] => ""
  | (key, value) :: entries =>
      let (own, variableName) := sectionOf key
      (if own = header then "" else own) ++ "\t" ++ variableName ++ " = " ++ quotedValue value ++
        "\n" ++ entryLines own entries

/-- The configuration that every repository starts with. -/
def initialConfig (repository : Repository) : Config :=
  [("core.bare", if repository.bare then "true" else "false"),
    ("core.repositoryformatversion", "0"), ("core.filemode", "true")] ++
    if repository.bare then [] else [("core.logallrefupdates", "true")]

/-- The texts that every repository starts with. -/
def initialTexts : List (Place × String) :=
  [(["description"],
      "Unnamed repository; edit this file 'description' to name the repository.\n"),
    (["info", "exclude"],
      "# File patterns to ignore; see \x60git help ignore\x60 for more information.\n" ++
        "# Lines that start with '#' are comments.\n"),
    (["hooks", "README.sample"],
      "#!/bin/sh\n#\n" ++
        "# Place appropriately named executable hook scripts into this directory\n" ++
        "# to intercept various actions that git takes.  See \x60git help hooks\x60 for\n" ++
        "# more information.\n")]

/-- The texts that hold the head, the configuration and the references of a repository. -/
def dataTexts (repository : Repository) : List (Place × String) :=
  (["HEAD"], refLine repository.head) ::
    (["config"], entryLines "" (repository.initialConfig ++ repository.config)) ::
    repository.refs.map fun (name, target) => (FileTree.parts name, refLine target)

def dataFiles (repository : Repository) : List (Place × List UInt8) :=
  (initialTexts ++ repository.dataTexts).map (fun (place, text) => (place, text.toUTF8.toList)) ++
    repository.objects.map fun (id, _) => (objectPlace id, compressed)

end CommitHeader.Repository
