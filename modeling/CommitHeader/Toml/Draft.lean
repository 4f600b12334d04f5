import CommitHeader.Toml.Value

/-!
# Tables under construction

A document builds its tables line by line, and how a table came to be decides how it may grow. A
table that only longer headers have named may still get a header of its own; one that dotted keys
have made takes more dotted keys and no header; one with a header gets no second one. Arrays of
tables grow at their end, and a value is closed.
-/

namespace CommitHeader.Toml

/-- How a table came to be. -/
inductive Origin
  /-- It has a header of its own. -/
  | header
  /-- A longer header names it. -/
  | implied
  /-- A dotted key names it. -/
  | dotted
deriving DecidableEq

/-- What stands at a key while a document is read. -/
inductive Draft
  | value (value : Value)
  | table (origin : Origin) (entries : List (String × Draft))
  /-- An array of tables: the finished ones, and the one that still grows. -/
  | tables (earlier : List Value) (last : List (String × Draft))

/-- The entries of a table under construction. -/
abbrev Entries := List (String × Draft)

mutual

def Draft.close : Draft → Value
  | .value value => value
  | .table _ entries => .table (closeAll entries)
  | .tables earlier last => .array (earlier ++ [.table (closeAll last)])

/-- The finished entries. -/
def closeAll : List (String × Draft) → List (String × Value)
  | [] => []
  | (key, draft) :: rest => (key, draft.close) :: closeAll rest

end

namespace Entries

/-- What stands at a key. -/
def find? (entries : Entries) (key : String) : Option Draft :=
  List.lookup key entries

/-- The entries with something new at a key; a key keeps its place. -/
def put (entries : Entries) (key : String) (draft : Draft) : Entries :=
  match entries with
  | [] => [(key, draft)]
  | (other, old) :: rest =>
      if other = key then (key, draft) :: rest else (other, old) :: put rest key draft

/-- The entries after a change in the table that a header path names. Missing tables on the way are
made, and an array of tables stands for its last one. -/
def within? (change : Entries → Option Entries) (path : List String) (entries : Entries) :
    Option Entries :=
  match path with
  | [] => change entries
  | key :: rest =>
      match entries.find? key with
      | none => (within? change rest []).map fun inner => entries.put key (.table .implied inner)
      | some (.value _) => none
      | some (.table origin inner) =>
          (within? change rest inner).map fun inner => entries.put key (.table origin inner)
      | some (.tables earlier last) =>
          (within? change rest last).map fun last => entries.put key (.tables earlier last)

/-- The entries with a table that has a header of its own at a key. -/
def openTable? (key : String) (entries : Entries) : Option Entries :=
  match entries.find? key with
  | none => some (entries.put key (.table .header []))
  | some (.table .implied inner) => some (entries.put key (.table .header inner))
  | some _ => none

/-- The entries with one more table in the array at a key. -/
def pushTable? (key : String) (entries : Entries) : Option Entries :=
  match entries.find? key with
  | none => some (entries.put key (.tables [] []))
  | some (.tables earlier last) =>
      some (entries.put key (.tables (earlier ++ [.table (closeAll last)]) []))
  | some _ => none

/-- The entries with a value at a path of dotted keys. The last table on the path must be one that
dotted keys have made, and the last key must be new. -/
def assign? (value : Value) (path : List String) (entries : Entries) : Option Entries :=
  match path with
  | [] => none
  | [key] =>
      match entries.find? key with
      | none => some (entries.put key (.value value))
      | some _ => none
  | key :: next :: rest =>
      match entries.find? key with
      | none =>
          (assign? value (next :: rest) []).map fun inner => entries.put key (.table .dotted inner)
      | some (.table .dotted inner) =>
          (assign? value (next :: rest) inner).map fun inner =>
            entries.put key (.table .dotted inner)
      | some (.table .implied inner) =>
          if rest.isEmpty then none
          else
            (assign? value (next :: rest) inner).map fun inner =>
              entries.put key (.table .implied inner)
      | some (.tables earlier last) =>
          if rest.isEmpty then none
          else
            (assign? value (next :: rest) last).map fun last =>
              entries.put key (.tables earlier last)
      | some _ => none

/-- The table that assignments within braces make. -/
def ofAssignments? (assignments : List (List String × Value)) : Option Table :=
  (assignments.foldlM (fun entries (path, value) => assign? value path entries) []).map closeAll

end Entries

end CommitHeader.Toml
