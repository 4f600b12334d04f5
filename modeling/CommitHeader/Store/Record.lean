import CommitHeader.ObjectId
import CommitHeader.Store.Person

/-!
# Commit objects

What a commit records, and the bytes that hold it: a line for the tree, one for each parent, one for
the author and one for the committer, a blank line, and the message. A reader passes over further
lines for authors and over any other lines before the blank one.
-/

namespace CommitHeader

structure CommitRecord where
  tree : ObjectId
  parents : List ObjectId
  author : Person
  committer : Person
  message : List UInt8
deriving DecidableEq

namespace CommitRecord

/-- A line that begins with a word. -/
def line (word : String) (content : List UInt8) : List UInt8 :=
  Person.ascii (word.toList ++ [' ']) ++ content ++ [10]

def encode (record : CommitRecord) : List UInt8 :=
  line "tree" (Person.ascii record.tree.digits) ++
    record.parents.flatMap (fun id => line "parent" (Person.ascii id.digits)) ++
    line "author" record.author.encode ++ line "committer" record.committer.encode ++
    10 :: record.message

/-- What follows a word and a space at the start of some bytes. -/
def afterWord? (word : String) (bytes : List UInt8) : Option (List UInt8) :=
  let lead := Person.ascii (word.toList ++ [' '])
  if lead.isPrefixOf bytes then some (bytes.drop lead.length) else none

/-- The id on a line that begins with a word, and what follows the line. -/
def idLine? (word : String) (bytes : List UInt8) : Option (ObjectId × List UInt8) := do
  let rest ← afterWord? word bytes
  let id ← (ObjectId.parse (String.ofList (Person.characters (rest.take 40)))).toOption
  match rest.drop 40 with
  | 10 :: rest => return (id, rest)
  | _ => none

/-- The ids on the lines that begin with a word, and what follows these lines. -/
def idLines (word : String) (bytes : List UInt8) : List ObjectId × List UInt8 :=
  match idLine? word bytes with
  | none => ([], bytes)
  | some (id, rest) =>
      if rest.length < bytes.length then
        let (ids, last) := idLines word rest
        (id :: ids, last)
      else ([], bytes)
termination_by bytes.length

/-- The person on a line that begins with a word, and what follows the line. -/
def personLine? (word : String) (bytes : List UInt8) : Option (Person × List UInt8) := do
  let (line, rest) ← Text.cutFirst? 10 bytes
  let person ← (afterWord? word line).bind Person.decode?
  return (person, rest)

/-- What follows the lines for further authors. Each of them has to name somebody. -/
def afterAuthors? (bytes : List UInt8) : Option (List UInt8) :=
  match afterWord? "author" bytes with
  | none => some bytes
  | some _ =>
      match personLine? "author" bytes with
      | none => none
      | some (_, rest) => if rest.length < bytes.length then afterAuthors? rest else none
termination_by bytes.length

/-- What follows the first blank line, and nothing if there is none. -/
def afterBlankLine (bytes : List UInt8) : List UInt8 :=
  match Text.cutFirst? 10 bytes with
  | none => []
  | some ([], rest) => rest
  | some (_ :: _, rest) => if rest.length < bytes.length then afterBlankLine rest else []
termination_by bytes.length

/-- What the bytes of a commit record. -/
def decode? (bytes : List UInt8) : Option CommitRecord := do
  let (tree, rest) ← idLine? "tree" bytes
  let (parents, rest) := idLines "parent" rest
  let (author, rest) ← personLine? "author" rest
  let rest ← afterAuthors? rest
  let (committer, rest) ← personLine? "committer" rest
  return { tree, parents, author, committer, message := afterBlankLine rest }

end CommitRecord

end CommitHeader
