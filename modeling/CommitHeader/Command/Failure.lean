import CommitHeader.Header
import CommitHeader.Repository
import CommitHeader.Settings.File

/-!
# Failures of commands

Why a command comes to nothing, in words where this program has them: what the store of a repository
complains of is worded by the store.
-/

namespace CommitHeader

/-- Why a command comes to nothing. -/
inductive Failure
  /-- There is no repository around the directory of the command. -/
  | outsideRepository
  /-- There is no repository around a path. -/
  | noRepositoryAt (path : String)
  /-- A settings file gives no settings. -/
  | settings (path : String) (cause : Settings.LoadError)
  /-- A revision does not name a commit. -/
  | unresolvedRevision (text : String)
  /-- A date of a commit is out of range. -/
  | invalidDate (id : ObjectId) (role : DateRole)
  /-- There is no commit whose children could be sought. -/
  | unknownCommit (id : ObjectId)
  | childrenNotFound
  /-- The header of a commit has no text. -/
  | unrendered (id : ObjectId) (cause : HeaderError)
  | unreadableKey (key : String)
  /-- A remote does not lead the path of its branch. -/
  | mismatch (cause : RefName.Mismatch)
  /-- The head leads nowhere. -/
  | unreadableHead
  /-- The head is no branch. -/
  | detachedHead
  | branchNotFound (name : String)
  | store
deriving DecidableEq

namespace Failure

def settingsMessage (path : String) : Settings.LoadError → String
  | .unreadable => "Failed to read header config from " ++ path
  | .malformed => "Failed to parse header config from " ++ path
  | .faulty _ => "Invalid header config in " ++ path

/-- The wording of a failure; the store words its own. -/
def message? : Failure → Option String
  | .outsideRepository => some "Not in a Git repository"
  | .noRepositoryAt path => some ("Failed to open Git repository at " ++ path)
  | .settings path cause => some (settingsMessage path cause)
  | .unresolvedRevision text => some ("Failed to resolve revision '" ++ text ++ "'")
  | .invalidDate id role =>
      some ("Commit " ++ id.hex ++ " has an invalid " ++ role.word ++ " date")
  | .unknownCommit id => some ("Unknown commit " ++ id.hex)
  | .childrenNotFound => some "Failed to find child commits"
  | .unrendered id _ => some ("Failed to render header for " ++ id.hex)
  | .unreadableKey key => some ("Failed to read config key " ++ key)
  | .mismatch cause => some cause.message
  | .unreadableHead => some "Failed to read HEAD"
  | .detachedHead => some "HEAD is detached; name a branch explicitly"
  | .branchNotFound name => some ("Local branch '" ++ name ++ "' not found")
  | .store => none

end Failure

end CommitHeader
