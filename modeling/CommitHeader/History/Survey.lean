import CommitHeader.History

/-!
# How far a walk reads

A walk that leaves out a commit and its ancestors reads commits from the tips and from that commit
on, mostly the latest first. It stops when all that it still has to take belong to the past of the
commit that is left out and are older than what it has kept, and a few more of them have not changed
that. A commit beyond the point where the walk stops need not be there.
-/

namespace CommitHeader

namespace History

/-- What a walk knows between two commits that it takes. -/
structure Survey where
  /-- The commits that are still to be taken. -/
  queue : List HistoryNode
  /-- What is known to be left out. -/
  past : List ObjectId
  /-- What has been put into the queue. -/
  seen : List ObjectId
  /-- What has been taken, so that its parents are in the queue. -/
  taken : List ObjectId := []
  /-- What has been read, so that its parents are known. -/
  read : List ObjectId
  /-- The time of the last commit that was kept. -/
  latest? : Option Int := none
  /-- How many commits of the past may still be taken in vain. -/
  patience : Nat

namespace Survey

/-- How many commits of the past a walk takes in vain before it stops. -/
def maxPatience : Nat := 5

/-- A queue with one more commit, in front of the first one that is earlier. -/
def enqueue (node : HistoryNode) : List HistoryNode → List HistoryNode
  | [] => [node]
  | other :: rest =>
      if other.time < node.time then node :: other :: rest else other :: enqueue node rest

/-- Adds commits to the past, and with each new one that has been read its parents. -/
def extendPast (history : History) (read : List ObjectId) :
    Nat → List ObjectId → List ObjectId → List ObjectId
  | 0, _, past => past
  | _, [], past => past
  | fuel + 1, id :: rest, past =>
      if past.contains id then extendPast history read fuel rest past
      else
        let parents := if read.contains id then history.parentsOf id else []
        extendPast history read fuel (parents ++ rest) (id :: past)

/-- The survey with the parents of a commit of the past, as far as they are known, in the past. -/
def markParents (history : History) (node : HistoryNode) (survey : Survey) : Survey :=
  { survey with
    past := extendPast history survey.read (history.links + node.parents.length) node.parents
      survey.past }

/-- Reads a parent of a commit that is kept; there is no survey if it cannot be read. -/
def readParent? (history : History) (survey : Survey) (id : ObjectId) : Option Survey :=
  (history.find? id).map fun node =>
    let survey := { survey with read := id :: survey.read }
    if survey.seen.contains id then survey
    else { survey with seen := id :: survey.seen, queue := enqueue node survey.queue }

/-- Reads a parent of a commit of the past; there is no survey if it cannot be read. -/
def readPastParent? (history : History) (survey : Survey) (id : ObjectId) : Option Survey :=
  (history.find? id).map fun node =>
    let survey := { survey with read := id :: survey.read, past := id :: survey.past }
    let survey := survey.markParents history node
    { survey with seen := id :: survey.seen, queue := enqueue node survey.queue }

/-- Reads the parents of a commit the first time that it is taken. -/
def readParents? (history : History) (node : HistoryNode) (survey : Survey) : Option Survey :=
  if survey.taken.contains node.id then some survey
  else
    let reader := if survey.past.contains node.id then readPastParent? history
      else readParent? history
    node.parents.foldlM reader { survey with taken := node.id :: survey.taken }

/-- Whether a time is later than that of the last commit kept. -/
def isLater (survey : Survey) (time : Int) : Bool :=
  survey.latest?.any (· < time)

/-- The patience after a commit of the past: none if nothing is left, full if something is left that
may matter, and else one less. -/
def patienceLeft (survey : Survey) : Nat :=
  match survey.queue with
  | [] => 0
  | next :: _ =>
      -- A commit may matter if it is not hidden or not earlier than the last one kept.
      if survey.latest?.any (· ≤ next.time) || survey.queue.any fun node =>
          !survey.past.contains node.id || survey.isLater node.time then maxPatience
      else survey.patience - 1

/-- Takes a commit. -/
def take? (history : History) (node : HistoryNode) (survey : Survey) : Option Survey :=
  (survey.readParents? history node).map fun survey =>
    if survey.past.contains node.id then
      let survey := survey.markParents history node
      { survey with patience := survey.patienceLeft }
    else { survey with latest? := some node.time }

/-- Whether a walk comes to its end without meeting anything that cannot be read. -/
def succeeds (history : History) : Nat → Survey → Bool
  | 0, _ => true
  | fuel + 1, survey =>
      match survey.queue with
      | [] => true
      | node :: queue =>
          match take? history node { survey with queue } with
          | none => false
          | some survey => survey.patience = 0 || succeeds history fuel survey

/-- The survey at the start of a walk from some tips that leaves out a commit. -/
def start (tips : List HistoryNode) (hidden : HistoryNode) : Survey :=
  let queue := (hidden :: tips.reverse).eraseDups
  let ids := queue.map HistoryNode.id
  { queue, past := hidden.id :: hidden.parents, seen := ids, read := ids, patience := maxPatience }

end Survey

/-- Whether the walk from some tips that leaves out a commit can read all that it has to. Every
commit is put into the queue once, and once more for each child in the past. -/
def isSurveyable (history : History) (tips : List ObjectId) (hidden : ObjectId) : Bool :=
  match tips.mapM history.find?, history.find? hidden with
  | some tips, some hidden =>
      Survey.succeeds history (tips.length + 1 + history.links) (.start tips hidden)
  | _, _ => false

end History

end CommitHeader
