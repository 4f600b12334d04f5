import CommitHeader.ObjectId

/-!
# Histories

The commits of a repository as a graph from children to parents, and what some commits reach in it.
-/

namespace CommitHeader

/-- A commit in the history: its parents and the time at which it was made. -/
structure HistoryNode where
  id : ObjectId
  parents : List ObjectId
  time : Int
deriving DecidableEq

abbrev History := List HistoryNode

namespace History

def find? (history : History) (id : ObjectId) : Option HistoryNode :=
  List.find? (fun node => node.id = id) history

/-- The parents of a commit, and none of what is no commit of the history. -/
def parentsOf (history : History) (id : ObjectId) : List ObjectId :=
  match history.find? id with
  | some node => node.parents
  | none => []

/-- How many times a commit is named as a parent. -/
def links (history : History) : Nat :=
  (history.flatMap HistoryNode.parents).length

/-- The known ids and those that they lead to in at most `rounds` steps, each once. -/
def spread (history : History) : Nat → List ObjectId → List ObjectId
  | 0, known => known
  | rounds + 1, known =>
      let fresh := (known.flatMap history.parentsOf).filter fun id => !known.contains id
      spread history rounds (known ++ fresh.eraseDups)

/-- Everything that some ids reach, themselves included. A path has no more steps than the history
has commits. -/
def reachable (history : History) (ids : List ObjectId) : List ObjectId :=
  history.spread history.length ids.eraseDups

end History

end CommitHeader
