import CommitHeader.Text.Cut

/-!
# Well-formed names

Which texts can be the name of a reference. A name is a path; it may also be a pattern, in which one
star stands for any text.
-/

namespace CommitHeader.RefName

/-- Whether a character may stand in a name. -/
def isAllowed (c : Char) : Bool :=
  ' ' < c && c ∉ ['~', '^', ':', '\\', '?', '[']

/-- Whether a segment of a path is well formed: it is not empty, does not begin with a point or end
in `.lock`, and has neither two points in a row nor an at sign before an opening brace. -/
def isSegment (cs : List Char) : Bool :=
  !cs.isEmpty && cs.all isAllowed && cs.head? ≠ some '.' && (Text.cutAt? ['.', '.'] cs).isNone &&
    (Text.cutAt? ['@', '\x7b'] cs).isNone && !".lock".toList.isSuffixOf cs

/-- Whether a segment is a name of its own at the top, such as `HEAD`: capital letters, with
underscores only between them. -/
def isTopName (cs : List Char) : Bool :=
  cs.all (fun c => c.isUpper || c = '_') && cs.head? ≠ some '_' && cs.getLast? ≠ some '_'

/-- Whether a text is the name of a reference in full or in short, or a pattern with at most one
star. -/
def isWellFormed (pattern : Bool) (cs : List Char) : Bool :=
  let segments := Text.cutEach '/' cs
  segments.all isSegment && cs.count '*' ≤ (if pattern then 1 else 0) && cs.getLast? ≠ some '.' &&
    match segments with
    | first :: _ :: _ => !isTopName first
    | _ => true

end CommitHeader.RefName
