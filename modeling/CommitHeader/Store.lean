import CommitHeader.Commit
import CommitHeader.Revision
import CommitHeader.Store.Message
import CommitHeader.Store.Record

/-!
# Object stores

The objects of a repository by id, and what a header takes from them: the data of a commit, and what
a lookup tells about one.
-/

namespace CommitHeader

/-- An object of a store. -/
inductive StoredObject
  | commit (record : CommitRecord)
  | blob
  /-- A commit whose bytes make no sense. -/
  | damaged
deriving DecidableEq

namespace StoredObject

/-- The commit that some bytes hold. -/
def ofBytes (bytes : List UInt8) : StoredObject :=
  match CommitRecord.decode? bytes with
  | some record => .commit record
  | none => .damaged

/-- The commit that holds the bytes of a record. A name or an address that the line of a person
cannot hold is read otherwise than it was meant. -/
def written (record : CommitRecord) : StoredObject :=
  .ofBytes record.encode

end StoredObject

/-- The objects of a repository; the first one with an id counts. -/
abbrev ObjectStore := List (ObjectId × StoredObject)

/-- The two dates of a commit. -/
inductive DateRole
  | author
  | commit
deriving DecidableEq

def DateRole.word : DateRole → String
  | .author => "author"
  | .commit => "commit"

/-- The data of a commit, without its children, or the first of its dates that is out of range. -/
def Commit.ofRecord (id : ObjectId) (record : CommitRecord) : Except DateRole Commit :=
  match record.author.timestamp?, record.committer.timestamp? with
  | none, _ => .error .author
  | _, none => .error .commit
  | some authorDate, some commitDate =>
      .ok {
        id
        tree := record.tree
        parents := record.parents
        children := []
        author := record.author.signature
        authorDate
        committer := record.committer.signature
        commitDate
        body := Text.Utf8.decodeLossy (Message.body record.message) }

/-- What a lookup tells about a commit. -/
def Revision.ofRecord (id : ObjectId) (record : CommitRecord) (short : Bool) : Revision :=
  { id
    subject := Text.Utf8.decodeLossy (Message.summary record.message)
    body := if short then none else some (Text.Utf8.decodeLossy (Message.body record.message)) }

namespace ObjectStore

def find? (store : ObjectStore) (id : ObjectId) : Option StoredObject :=
  List.lookup id store

def commit? (store : ObjectStore) (id : ObjectId) : Option CommitRecord :=
  match store.find? id with
  | some (.commit record) => some record
  | _ => none

/-- The answer to a request for a revision. What is no commit is not found. -/
def revision (store : ObjectStore) (request : Request) : Except LookupError Revision :=
  match store.find? request.id with
  | some (.commit record) => .ok (.ofRecord request.id record request.short)
  | some .damaged => .error .unreadable
  | some .blob | none => .error (.notFound request.id)

def lookup (store : ObjectStore) : Lookup Unit :=
  .ofFunction store.revision

end ObjectStore

end CommitHeader
