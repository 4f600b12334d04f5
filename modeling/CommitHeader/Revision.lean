import CommitHeader.ObjectId

/-!
# Looking up revisions

A header names the commits around its own by their subjects, which it asks of a lookup. A lookup may
change its state with every answer, so it is a step function: a request and a state give an answer
and the next state.
-/

namespace CommitHeader

/-- What a lookup tells about a commit; the body is left out of short answers. -/
structure Revision where
  id : ObjectId
  subject : String
  body : Option String := none
deriving DecidableEq

/-- Why a revision is not found. -/
inductive LookupError
  | notFound (id : ObjectId)
  /-- The commit is there and cannot be read. -/
  | unreadable
  /-- Any other reason, in words. -/
  | other (text : String)
deriving DecidableEq

/-- The wording of a lookup error; the store words its own. -/
def LookupError.message? : LookupError → Option String
  | .notFound id => some ("revision " ++ id.hex ++ " not found")
  | .unreadable => none
  | .other text => some text

/-- What a lookup is asked: a commit's id, and whether a short answer will do. -/
structure Request where
  id : ObjectId
  short : Bool := true
deriving DecidableEq

/-- A source of revisions with a state of its own. -/
abbrev Lookup (σ : Type) := Request → σ → Except LookupError Revision × σ

namespace Lookup

variable {σ : Type}

/-- The lookup that answers by a function and has no state. -/
def ofFunction (answer : Request → Except LookupError Revision) : Lookup Unit :=
  fun request state => (answer request, state)

/-- A lookup that also keeps the requests it was asked, the earliest first. -/
def logged (inner : Lookup σ) : Lookup (σ × List Request) := fun request state =>
  let (answer, next) := inner request state.1
  (answer, (next, state.2 ++ [request]))

end Lookup

end CommitHeader
