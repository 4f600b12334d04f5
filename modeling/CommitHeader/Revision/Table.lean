import CommitHeader.Revision

/-!
# Tables of revisions

A lookup over a list of known answers. A known revision is given whole whether or not a short answer
would do, and an id without an entry is not found.
-/

namespace CommitHeader

/-- The answers known, by id; the first entry of an id counts. -/
abbrev RevisionTable := List (ObjectId × Except String Revision)

namespace RevisionTable

/-- The table with a revision in place of what was known of its id. -/
def put (table : RevisionTable) (revision : Revision) : RevisionTable :=
  (revision.id, .ok revision) :: table

/-- The table with a failure, given in words, in place of what was known of an id. -/
def putFailure (table : RevisionTable) (id : ObjectId) (text : String) : RevisionTable :=
  (id, .error text) :: table

/-- The table without anything known of an id. -/
def forget (table : RevisionTable) (id : ObjectId) : RevisionTable :=
  table.filter fun entry => entry.1 ≠ id

def answer (table : RevisionTable) (request : Request) : Except LookupError Revision :=
  match List.lookup request.id table with
  | some (.ok revision) => .ok revision
  | some (.error text) => .error (.other text)
  | none => .error (.notFound request.id)

/-- The lookup in a table, which no request changes. -/
def lookup : Lookup RevisionTable := fun request table => (table.answer request, table)

end RevisionTable

end CommitHeader
