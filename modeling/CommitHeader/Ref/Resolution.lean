import CommitHeader.ObjectId

/-!
# Following references

A reference holds an object or stands for another reference. A lookup follows a limited number of
references that stand for others, so a circle of them leads nowhere.
-/

namespace CommitHeader

/-- What a reference holds: an object, or the name of another reference. -/
inductive RefTarget
  | direct (id : ObjectId)
  | symbolic (name : String)
deriving DecidableEq

/-- References by complete name; the first one of a name counts. -/
abbrev RefTable := List (String × RefTarget)

/-- Where a reference leads in the end. -/
inductive RefEnd
  /-- To an object, by way of the reference of this name. -/
  | object (name : String) (id : ObjectId)
  /-- To a reference that does not exist. -/
  | missing
  /-- On and on: more references stand for others than are followed. -/
  | tooDeep
deriving DecidableEq

def RefEnd.object? : RefEnd → Option (String × ObjectId)
  | .object name id => some (name, id)
  | _ => none

namespace RefTable

/-- How many references that stand for others are followed. -/
def maxHops : Nat := 5

/-- Where a reference leads if at most `hops` references that stand for others are followed. -/
def follow (refs : RefTable) (name : String) (hops : Nat) : RefEnd :=
  match List.lookup name refs with
  | none => .missing
  | some (.direct id) => .object name id
  | some (.symbolic other) =>
      match hops with
      | 0 => .tooDeep
      | hops + 1 => follow refs other hops
termination_by hops

def resolve (refs : RefTable) (name : String) : RefEnd :=
  refs.follow name maxHops

end RefTable

end CommitHeader
