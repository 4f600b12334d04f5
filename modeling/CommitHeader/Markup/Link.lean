import CommitHeader.Markup.Anchor
import CommitHeader.Markup.Entity
import CommitHeader.ObjectId
import CommitHeader.Text.Blank
import CommitHeader.Text.Slice

/-!
# Links

The anchors of a commit header: mail links for people and links that lead to a commit. A person is
written as a name and an address in angle brackets; what lies between the first opening and the last
closing bracket is the address, unless it is blank.
-/

namespace CommitHeader.Markup

/-- The address of a signature, with the blanks around it. -/
def addressChars? (signature : List Char) : Option (List Char) := do
  let (_, rest) ← Text.cutFirst? '<' signature
  let (address, _) ← Text.cutLast? '>' rest
  if Text.hasInk address then some address else none

def address? (signature : String) : Option String :=
  (addressChars? signature.toList).map String.ofList

/-- The address of a signature as its text between two byte offsets, from behind the first opening
bracket to the last closing one. -/
def slicedAddress? (signature : List Char) : Option (List Char) := do
  let start ← Text.firstOffset? '<' signature
  let stop ← Text.lastOffset? '>' signature
  let address ← Text.slice? (start + 1) stop signature
  if Text.hasInk address then some address else none

/-- The scheme of commit links unless another one is configured. -/
def defaultCommitScheme : String := "gitext://gotocommit/"

/-- An anchor around a text, which is encoded; the target is taken as it is. -/
def link (text target : String) : Anchor :=
  ⟨target, Entity.encode text⟩

/-- An anchor that opens a mail to an address. -/
def mailLink (text address : String) : Anchor :=
  link text ("mailto:" ++ address)

/-- An anchor that leads to a commit, around markup taken as it is. -/
def commitLink (scheme : String) (id : ObjectId) (content : String) : Anchor :=
  ⟨scheme ++ id.hex, content⟩

/-- The markup of a person: a mail link if the signature has an address, else its encoded text. -/
def signatureMarkup (signature : String) : String :=
  match address? signature with
  | some address => (mailLink signature address).render
  | none => Entity.encode signature

end CommitHeader.Markup
