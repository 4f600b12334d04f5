import CommitHeader.Toml.Draft
import CommitHeader.Toml.Moment
import CommitHeader.Toml.Number
import CommitHeader.Toml.StringForm

/-!
# TOML statements

A document is a sequence of statements, one a line: headers of tables, headers of elements of arrays
of tables, and keys with their values. Within braces an assignment may go on over several lines.
Arrays and tables in braces nest to a limited depth, and paths of keys have a limited length.
-/

namespace CommitHeader.Toml

/-- Whether a character may stand in a bare key. -/
def isBare (c : Char) : Bool :=
  c.isAlphanum || c = '-' || c = '_'

/-- A single key, bare or as a string of one line. -/
def key? : Reader String := fun cs =>
  match StringForm.opening? cs with
  | some (form, rest) =>
      if form.isLong then none
      else (form.body? rest).map fun (text, last) => (String.ofList text, last)
  | none =>
      let name := cs.takeWhile isBare
      if name.isEmpty then none else some (String.ofList name, cs.dropWhile isBare)

/-- How deep arrays and tables in braces may nest, and how many keys a path may have. -/
def maxDepth : Nat := 80

/-- Keys with a point between each two, and the rest without the spaces before it. -/
def keys? (cs : List Char) : Option (List String × List Char) :=
  match key? cs with
  | none => none
  | some (key, rest) =>
      match dropSpace rest with
      | '.' :: after =>
          if (dropSpace after).length < cs.length then
            (keys? (dropSpace after)).map fun (keys, last) => (key :: keys, last)
          else none
      | rest => some ([key], rest)
termination_by cs.length

/-- A path of keys. -/
def path? : Reader (List String) := fun cs =>
  (keys? cs).filter fun (keys, _) => keys.length ≤ maxDepth

/-- Whether a character may stand in a word or number. -/
def isWordPart (c : Char) : Bool :=
  c.isAlphanum || c = '+' || c = '-' || c = '_' || c = '.' || c = ':'

/-- The value that a word or number stands for. -/
def scalarOf? (cs : List Char) : Option Value :=
  if cs = ['t', 'r', 'u', 'e'] then some (.boolean true)
  else if cs = ['f', 'a', 'l', 's', 'e'] then some (.boolean false)
  else if Moment.isMoment cs then some (.moment (String.ofList cs))
  else
    match Number.integer? cs with
    | some n => some (.integer n)
    | none => (Number.real? cs).map .real

/-- A word or number. -/
def scalar? : Reader Value := fun cs =>
  let word := cs.takeWhile isWordPart
  let rest := cs.dropWhile isWordPart
  let (word, rest) :=
    match rest with
    | ' ' :: c :: _ =>
        -- After a date, a space and a digit go on with the time of day.
        if c.isDigit && Moment.afterDate? word = some [] then
          (word ++ ' ' :: rest.tail.takeWhile isWordPart, rest.tail.dropWhile isWordPart)
        else (word, rest)
    | _ => (word, rest)
  (scalarOf? word).map fun value => (value, rest)

/-- A path of keys, an equals sign and a value. What may stand before the sign and the value is
passed over by `gap?`. -/
def assignment? (gap? : List Char → Option (List Char)) (value : Reader Value) :
    Reader (List String × Value) := fun cs => do
  let (path, rest) ← path? cs
  let '=' :: rest ← gap? rest | none
  let (value, last) ← value (← gap? rest)
  return ((path, value), last)

/-- A value in which collections nest at most `depth` deep. -/
def value? (depth : Nat) : Reader Value := fun cs =>
  match depth, cs with
  | 0, '[' :: _ => none
  | 0, '{' :: _ => none
  | depth + 1, '[' :: rest =>
      (items? (value? depth) ']' rest).map fun (values, last) => (.array values, last)
  | depth + 1, '{' :: rest =>
      match items? (assignment? (dropGap? false) (value? depth)) '}' rest with
      | none => none
      | some (assignments, last) =>
          (Entries.ofAssignments? assignments).map fun table => (.table table, last)
  | _, _ =>
      if (StringForm.opening? cs).isSome then
        (StringForm.read? cs).map fun (text, last) => (.string text, last)
      else scalar? cs

/-- A line of a document. -/
inductive Statement
  /-- The entries that follow belong to this table. -/
  | header (path : List String)
  /-- The entries that follow belong to a new last element of this array. -/
  | element (path : List String)
  | entry (path : List String) (value : Value)

namespace Statement

/-- A path of keys within brackets. -/
def bracketed? (closing : List Char) : Reader (List String) := fun cs =>
  match path? (dropSpace cs) with
  | none => none
  | some (path, rest) => (Text.dropLead? closing rest).map fun last => (path, last)

/-- A statement, up to the end of it. -/
def content? : Reader Statement := fun cs =>
  match cs with
  | '[' :: '[' :: rest => (bracketed? [']', ']'] rest).map fun (path, last) => (.element path, last)
  | '[' :: rest => (bracketed? [']'] rest).map fun (path, last) => (.header path, last)
  | _ =>
      (assignment? (some ∘ dropSpace) (value? maxDepth) cs).map fun ((path, value), last) =>
        (.entry path value, last)

/-- A statement and the end of its line. -/
def read? : Reader Statement := fun cs =>
  match content? cs with
  | none => none
  | some (statement, rest) => (endLine? false rest).map fun last => (statement, last)

/-- The statements of a text. -/
def all? (cs : List Char) : Option (List Statement) :=
  match dropGap? false cs with
  | none => none
  | some [] => some []
  | some (c :: start) =>
      match read? (c :: start) with
      | none => none
      | some (statement, rest) =>
          if rest.length < cs.length then (all? rest).map (statement :: ·) else none
termination_by cs.length

end Statement

end CommitHeader.Toml
