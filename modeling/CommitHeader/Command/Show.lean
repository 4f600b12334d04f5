import CommitHeader.Command.Opening
import CommitHeader.Revision.Cache

/-!
# Showing a commit

The header of a commit of the repository, under the settings of the user and the wishes of one call.
-/

namespace CommitHeader

/-- What a call asks for. -/
structure ShowRequest where
  revision : String := "HEAD"
  alignment : Option Alignment := none
  plain : Bool := false
  noLinks : Bool := false
  noChildren : Bool := false
  universalTime : Bool := false
  repository : Option String := none
  settings : Option String := none
deriving DecidableEq

/-- The commit that an expression names, without its children. -/
def Repository.loadCommit (repository : Repository) (revision : String) : Except Failure Commit :=
  match repository.revision? revision with
  | none => .error (.unresolvedRevision revision)
  | some (id, record) =>
      match Commit.ofRecord id record with
      | .ok commit => .ok commit
      | .error role => .error (.invalidDate id role)

def Repository.findChildren (repository : Repository) (id : ObjectId) :
    Except Failure (List ObjectId) :=
  match repository.children id with
  | .ok ids => .ok ids
  | .error .unknown => .error (.unknownCommit id)
  | .error .unreadable => .error .store

namespace ShowRequest

/-- The settings that a call asks for: those of the file with the alignment it names. -/
def settingsIn (request : ShowRequest) (workspace : Workspace) : Except Failure Settings := do
  let settings ← workspace.loadSettings request.settings
  return { settings with alignment := request.alignment.getD settings.alignment }

/-- The commit that a call shows, with its children unless they are left out. -/
def withChildren (request : ShowRequest) (repository : Repository) (commit : Commit) :
    Except Failure Commit :=
  if request.noChildren then .ok commit
  else
    match repository.findChildren commit.id with
    | .ok children => .ok { commit with children }
    | .error _ => .error .childrenNotFound

/-- The header that a call asks for. -/
def header (request : ShowRequest) (workspace : Workspace) : Except Failure String := do
  let settings ← request.settingsIn workspace
  let repository ← workspace.openRepository request.repository
  let commit ← repository.loadCommit request.revision
  let style := settings.style (if request.universalTime then 0 else workspace.localOffset)
  if request.plain then
    match style.renderPlain workspace.now commit with
    | .ok text => return text
    | .error cause => throw (.unrendered commit.id cause)
  let commit ← request.withChildren repository commit
  let links := settings.links && !request.noLinks
  match (style.render workspace.now commit links repository.objects.lookup.cached ((), [])).1 with
  | .ok text => return text
  | .error cause => throw (.unrendered commit.id cause)

end ShowRequest

end CommitHeader
