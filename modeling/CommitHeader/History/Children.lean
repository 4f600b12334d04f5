import CommitHeader.History.Survey

/-!
# Children of a commit

The children of a commit are found on a walk over all that some tips reach, less the commit itself
and its ancestors: a child never is an ancestor, so none is lost. The walk takes a commit only after
all its children in it, and among those it may take the latest.
-/

namespace CommitHeader

namespace History

/-- Whether no commit of a list has this one as a parent. -/
def isReady (nodes : List HistoryNode) (node : HistoryNode) : Bool :=
  nodes.all fun other => !other.parents.contains node.id

/-- The latest of some commits, and the first of those if there are several. -/
def latest? : List HistoryNode → Option HistoryNode
  | [] => none
  | node :: nodes =>
      match latest? nodes with
      | some other => if node.time < other.time then some other else some node
      | none => some node

/-- Commits in an order that puts children before parents and else takes the latest first. -/
def ordered : Nat → List HistoryNode → List HistoryNode
  | 0, _ => []
  | count + 1, nodes =>
      match latest? (nodes.filter (isReady nodes)) with
      | none => []
      | some node => node :: ordered count (nodes.erase node)

/-- The walk from some tips that leaves out a commit and its ancestors. -/
def walk (history : History) (tips : List ObjectId) (hidden : ObjectId) : List HistoryNode :=
  let past := history.reachable [hidden]
  let nodes := ((history.reachable tips).filter fun id => !past.contains id).filterMap history.find?
  ordered nodes.length nodes

/-- The commits that some tips reach and that have `id` as a parent, in the order of the walk. There
is no answer if the walk meets something that cannot be read. -/
def children? (history : History) (tips : List ObjectId) (id : ObjectId) :
    Option (List ObjectId) :=
  if tips.isEmpty then some []
  else if history.isSurveyable tips id then
    some (((history.walk tips id).filter fun node => node.parents.contains id).map HistoryNode.id)
  else none

end History

end CommitHeader
