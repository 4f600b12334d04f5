import CommitHeader.Commit
import CommitHeader.Markup.Entity
import CommitHeader.Text.Width

/-!
# Header labels

The seven labels of a header and the width of the widest one. The two labels of related commits
count only where the commit has any.
-/

namespace CommitHeader

structure Labels where
  author : String := "Author"
  authorDate : String := "Author date"
  committer : String := "Committer"
  commitDate : String := "Commit date"
  commitHash : String := "Commit hash"
  children : String := "Children"
  parents : String := "Parents"
deriving DecidableEq

namespace Labels

/-- The labels that every header has. -/
def fixed (labels : Labels) : List String :=
  [labels.author, labels.authorDate, labels.committer, labels.commitDate, labels.commitHash]

/-- The labels of the header of a commit. -/
def present (labels : Labels) (commit : Commit) : List String :=
  labels.fixed ++ (if commit.children.isEmpty then [] else [labels.children]) ++
    (if commit.parents.isEmpty then [] else [labels.parents])

/-- The greatest display width of some texts; 0 if there are none. -/
def longest (texts : List String) : Nat :=
  (texts.map Text.width).foldr max 0

end Labels

end CommitHeader
