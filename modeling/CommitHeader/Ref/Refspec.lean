import CommitHeader.Ref.Name
import CommitHeader.Ref.WellFormed

/-!
# Refspecs

Rules that map the references of a remote to those of a repository and back. A rule names a source
and, after its last colon, a destination; a star in both makes it a rule for a whole directory. A
plus sign in front allows forced updates, and a caret makes an exception of what it names.
-/

namespace CommitHeader

/-- A rule that maps the references of a remote to those of the repository. -/
structure Refspec where
  source : List Char
  /-- Where references go, if they are kept at all. -/
  destination? : Option (List Char)
deriving DecidableEq

namespace Refspec

/-- A rule before and after its last colon. -/
def cut (cs : List Char) : List Char × Option (List Char) :=
  match Text.cutLast? ':' cs with
  | some (source, destination) => (source, some destination)
  | none => (cs, none)

/-- Whether a text names an exception, given what follows its caret. -/
def isException (cs : List Char) : Bool :=
  RefName.isWellFormed (cs.contains '*') cs

/-- The rule for fetching that a text states. Its two sides have a star both or neither, and may be
empty. -/
def ofFetch? (text : String) : Option Refspec :=
  match text.toList with
  | '^' :: rest => if isException rest then some ⟨rest, none⟩ else none
  | '+' :: rest => ofSides? (cut rest)
  | cs => ofSides? (cut cs)
where
  /-- The rule of a source and what stands for a destination. -/
  ofSides? : List Char × Option (List Char) → Option Refspec
    | (source, destination?) =>
        let destination? := destination?.filter (!·.isEmpty)
        let pattern := source.contains '*'
        let fits (side : List Char) : Bool := side.isEmpty || RefName.isWellFormed pattern side
        if (destination?.getD []).contains '*' = pattern && fits source &&
            fits (destination?.getD []) then
          some ⟨source, destination?⟩
        else none

/-- Whether a text states a rule for pushing. A lone colon stands for all references of the same
name. Without a colon the source is the destination as well; with one, there must be a destination,
and a source without a star may be any expression. -/
def isPush (text : String) : Bool :=
  match text.toList with
  | [':'] | ['+', ':'] => true
  | '^' :: rest => isException rest
  | '+' :: rest => hasSides (cut rest)
  | cs => hasSides (cut cs)
where
  /-- Whether a source and what stands for a destination make a rule. -/
  hasSides : List Char × Option (List Char) → Bool
    | (source, none) => RefName.isWellFormed (source.contains '*') source
    | (source, some destination) =>
        let pattern := source.contains '*'
        destination.contains '*' = pattern && RefName.isWellFormed pattern destination &&
          (!pattern || RefName.isWellFormed pattern source)

/-- The destination in full. One outside `refs/` is short for a remote-tracking branch if it begins
with `remotes/`, and else for a local branch. -/
def fullDestination? (rule : Refspec) : Option (List Char) :=
  rule.destination?.bind fun destination =>
    if "refs/".toList.isPrefixOf destination then some destination
    -- Behind a source that is short itself nothing is completed.
    else if !"refs/".toList.isPrefixOf rule.source then none
    else if "remotes/".toList.isPrefixOf destination then some ("refs/".toList ++ destination)
    else some (headsDirectory.toList ++ destination)

/-- Whether a text is `lead`, any characters and `tail`. -/
def isBetween (lead tail cs : List Char) : Bool :=
  ((Text.dropLead? lead cs).bind fun rest => Text.dropLead? tail.reverse rest.reverse).isSome

/-- Whether a rule leads to a reference. A star stands for any text, slashes included. -/
def covers (rule : Refspec) (complete : String) : Bool :=
  match rule.fullDestination? with
  | none => false
  | some destination =>
      match Text.cutFirst? '*' destination with
      | none => destination = complete.toList
      | some (lead, tail) => isBetween lead tail complete.toList

end Refspec

end CommitHeader
