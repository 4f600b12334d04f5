import CommitHeader.Calendar.Instant
import CommitHeader.ObjectId
import CommitHeader.Text.Blank

/-!
# Commits

What a header says about a commit, and the subject of its message.
-/

namespace CommitHeader

/-- A commit: its place in the history, the people and times it records and its message. -/
structure Commit where
  id : ObjectId
  tree : ObjectId
  parents : List ObjectId
  children : List ObjectId
  author : String
  authorDate : Calendar.Timestamp
  committer : String
  commitDate : Calendar.Timestamp
  body : String
deriving DecidableEq

namespace Commit

/-- The subject of a message: the text from its first character that is not blank up to the end of
that line. -/
def subjectOf (body : String) : String :=
  String.ofList (Text.firstLine (Text.dropBlanks body.toList))

def subject (commit : Commit) : String :=
  subjectOf commit.body

end Commit

end CommitHeader
