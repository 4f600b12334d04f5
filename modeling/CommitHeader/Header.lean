import CommitHeader.Calendar.DateText
import CommitHeader.Header.Labels
import CommitHeader.Label
import CommitHeader.Markup.Link
import CommitHeader.Revision

/-!
# Headers

The header of a commit: five lines for its people, dates and id, then a line for each child and each
parent. A line is a lead, which holds a label and ends at the column of the values, and a value.

The markup form links people to their addresses and related commits to themselves; the plain form
has the five fixed lines only and encodes nothing.
-/

namespace CommitHeader

/-- How headers look. -/
structure HeaderStyle where
  alignment : Alignment := .tabs
  dates : Calendar.DateStyle := {}
  scheme : String := Markup.defaultCommitScheme
  labels : Labels := {}
deriving DecidableEq

/-- A line of a header: the lead up to the column of values, and the value. -/
structure HeaderLine where
  lead : String
  value : String
deriving DecidableEq

def HeaderLine.text (line : HeaderLine) : String :=
  line.lead ++ line.value

/-- A related commit as a header shows it. -/
structure Relative where
  id : ObjectId
  subject : String
deriving DecidableEq

/-- Why a header has no text. -/
inductive HeaderError
  /-- A date has neither a text of its pattern nor a mail form. -/
  | undatable
  /-- The lookup failed for a related commit. -/
  | unresolved (id : ObjectId) (cause : LookupError)
deriving DecidableEq

/-- The wording of a header error; a date without a text has none. -/
def HeaderError.message? : HeaderError → Option String
  | .undatable => none
  | .unresolved id _ => some ("failed to resolve revision " ++ id.hex)

namespace HeaderStyle

/-- The column of values in the markup form. -/
def markupColumn (style : HeaderStyle) (commit : Commit) : Nat :=
  style.alignment.column
    (Labels.longest ((style.labels.present commit).map Markup.Entity.encode))

/-- The column of values in the plain form. -/
def plainColumn (style : HeaderStyle) : Nat :=
  style.alignment.column (Labels.longest style.labels.fixed)

/-- The five lines that every header has, given how a lead and a person are written. -/
def fixedLines? (style : HeaderStyle) (now : Calendar.Instant) (commit : Commit)
    (lead person : String → String) : Option (List HeaderLine) := do
  let authorDate ← style.dates.text? now commit.authorDate
  let commitDate ← style.dates.text? now commit.commitDate
  return [
    ⟨lead style.labels.author, person commit.author⟩,
    ⟨lead style.labels.authorDate, authorDate⟩,
    ⟨lead style.labels.committer, person commit.committer⟩,
    ⟨lead style.labels.commitDate, commitDate⟩,
    ⟨lead style.labels.commitHash, commit.id.hex⟩]

/-- The value of a related line: the short id, linked or bare, and the subject as it is. -/
def relatedValue (style : HeaderStyle) (links : Bool) (relative : Relative) : String :=
  let short := relative.id.short
  let shown := if links then (Markup.commitLink style.scheme relative.id short).render else short
  shown ++ " " ++ relative.subject

/-- The lines of a block of related commits. The first one bears the label and the others are blank
up to the column. -/
def relatedLines (style : HeaderStyle) (links : Bool) (column : Nat) (label : String) :
    List Relative → List HeaderLine
  | [] => []
  | first :: others =>
      ⟨style.alignment.label label column true, style.relatedValue links first⟩ ::
        others.map fun relative =>
          ⟨style.alignment.label "" column false, style.relatedValue links relative⟩

def plainLines? (style : HeaderStyle) (now : Calendar.Instant) (commit : Commit) :
    Option (List HeaderLine) :=
  let lead (label : String) := style.alignment.plainLabel label style.plainColumn
  style.fixedLines? now commit lead id

/-- The text of some lines, without a line feed after the last one. -/
def textOf (lines : List HeaderLine) : String :=
  Text.joinLines (lines.map HeaderLine.text)

def renderPlain (style : HeaderStyle) (now : Calendar.Instant) (commit : Commit) :
    Except HeaderError String :=
  match style.plainLines? now commit with
  | some lines => .ok (textOf lines)
  | none => .error .undatable

/-- What a lookup says of some commits, asked one after the other for short answers. The first
failure ends the questions. -/
def resolve {σ : Type} (lookup : Lookup σ) :
    List ObjectId → σ → Except HeaderError (List Relative) × σ
  | [], state => (.ok [], state)
  | id :: ids, state =>
      match lookup { id } state with
      | (.error cause, next) => (.error (.unresolved id cause), next)
      | (.ok revision, next) =>
          match resolve lookup ids next with
          | (.error e, last) => (.error e, last)
          | (.ok relatives, last) => (.ok (⟨id, revision.subject⟩ :: relatives), last)

/-- The two blocks of related commits, given what is shown of the children and, after them, of the
parents. -/
def relatedBlocks (style : HeaderStyle) (commit : Commit) (links : Bool)
    (relatives : List Relative) : List HeaderLine :=
  let column := style.markupColumn commit
  let (children, parents) := relatives.splitAt commit.children.length
  style.relatedLines links column style.labels.children children ++
    style.relatedLines links column style.labels.parents parents

/-- The lines of the markup form. -/
def markupLines {σ : Type} (style : HeaderStyle) (now : Calendar.Instant) (commit : Commit)
    (links : Bool) (lookup : Lookup σ) (state : σ) : Except HeaderError (List HeaderLine) × σ :=
  let column := style.markupColumn commit
  let lead (label : String) := style.alignment.label label column true
  match style.fixedLines? now commit lead Markup.signatureMarkup with
  -- Without its dates a header asks nothing of the lookup.
  | none => (.error .undatable, state)
  | some fixed =>
      match resolve lookup (commit.children ++ commit.parents) state with
      | (.error e, next) => (.error e, next)
      | (.ok relatives, next) => (.ok (fixed ++ style.relatedBlocks commit links relatives), next)

/-- The markup form of a commit's header. -/
def render {σ : Type} (style : HeaderStyle) (now : Calendar.Instant) (commit : Commit)
    (links : Bool) (lookup : Lookup σ) (state : σ) : Except HeaderError String × σ :=
  let (lines, next) := style.markupLines now commit links lookup state
  (lines.map textOf, next)

end HeaderStyle

end CommitHeader
