import CommitHeader.Ref.Refspec
import CommitHeader.Repository.Switch

/-!
# Remotes

A remote has a name, an address and rules that map its branches to remote-tracking ones. The rules
say which remote a remote-tracking branch belongs to, unless several remotes map to it. A remote
that is not configured as it should be does not count.
-/

namespace CommitHeader

structure Remote where
  name : String
  rules : List Refspec
deriving DecidableEq

/-- Whether a text can be the name of a remote: its branches need a directory of their own. -/
def Remote.isName (name : String) : Bool :=
  RefName.isWellFormed false (remotesDirectory ++ name ++ "/test").toList

/-- What a repository says about the remote of a remote-tracking branch. -/
inductive RemoteAnswer
  | named (remote : String)
  /-- There is a name, and it is no text. -/
  | illegible
  /-- No remote is known, or more than one. -/
  | unknown
deriving DecidableEq

namespace Config

/-- The names of the remotes that have an address, each once. -/
def remoteNames (config : Config) : List String :=
  (config.filterMap fun entry =>
    (nameIn? "remote" "url" entry.1 <|> nameIn? "remote" "pushurl" entry.1)).eraseDups

def remoteVariable (name variableName : String) : String :=
  "remote." ++ name ++ "." ++ variableName

/-- Whether a remote says clearly if branches that are gone are to be pruned. What it does not say
is said for all remotes. -/
def hasClearPruning (config : Config) (name : String) : Bool :=
  let own := config.value? (remoteVariable name "prune")
  (own.or (config.value? "fetch.prune")).all Switch.isSwitch

/-- The remote of a name, if it is configured as it should be. -/
def remote? (config : Config) (name : String) : Option Remote :=
  if Remote.isName name && (config.values (remoteVariable name "push")).all Refspec.isPush &&
      config.hasClearPruning name then do
    let rules ← (config.values (remoteVariable name "fetch")).mapM Refspec.ofFetch?
    some ⟨name, rules⟩
  else none

def remotes (config : Config) : List Remote :=
  config.remoteNames.filterMap config.remote?

/-- The remote of a remote-tracking branch: the only one with a rule that leads to it. -/
def remoteOf (config : Config) (complete : String) : RemoteAnswer :=
  match config.remotes.filter fun remote => remote.rules.any fun rule => rule.covers complete with
  | [remote] => .named remote.name
  | _ => .unknown

end Config

end CommitHeader
