import CommitHeader.Text.Quoted

/-!
# Object ids

The twenty bytes that name a commit or a tree, and their text of forty hexadecimal digits. Ids are
ordered by their bytes.
-/

namespace CommitHeader

/-- The name of an object: a value of twenty bytes. -/
structure ObjectId where
  bytes : List UInt8
  length_bytes : bytes.length = 20
deriving DecidableEq

namespace ObjectId

/-- How many digits the short form shows. -/
def shortLength : Nat := 8

/-- The id of twenty bytes; any other number of bytes is no id. -/
def ofBytes? (bytes : List UInt8) : Option ObjectId :=
  if h : bytes.length = 20 then some ⟨bytes, h⟩ else none

/-- The forty lower-case digits of an id. -/
def digits (id : ObjectId) : List Char :=
  id.bytes.flatMap Text.Hex.ofByte

/-- The full text of an id. -/
def hex (id : ObjectId) : String :=
  String.ofList id.digits

/-- The first eight digits, for compact display. -/
def short (id : ObjectId) : String :=
  String.ofList (id.digits.take shortLength)

/-- The text of an id in diagnostics. -/
def described (id : ObjectId) : String :=
  "ObjectId(" ++ Text.Quoted.text id.hex ++ ")"

instance : Ord ObjectId where
  compare a b := compare a.bytes b.bytes

/-- Ids in increasing order; equal ones stay side by side. -/
def sorted (ids : List ObjectId) : List ObjectId :=
  ids.mergeSort fun a b => (compare a b).isLE

/-- Why a text is not an id. -/
inductive ParseError
  /-- The text does not have forty bytes. -/
  | invalidLength (bytes : Nat)
  /-- The character at this byte offset is no hexadecimal digit. -/
  | invalidCharacter (character : Char) (offset : Nat)
deriving DecidableEq

def ParseError.message : ParseError → String
  | .invalidLength n => "object id must be 40 hex characters, got " ++ toString n ++ " bytes"
  | .invalidCharacter c offset =>
      "invalid hex character " ++ Text.Quoted.character c ++ " at offset " ++ toString offset

/-- The values of a run of digits that starts at a byte offset. The first character that is no digit
ends the reading. -/
def readDigits (offset : Nat) : List Char → Except ParseError (List Nat)
  | [] => .ok []
  | c :: cs =>
      match Text.Hex.value? c with
      | none => .error (.invalidCharacter c offset)
      | some d => (readDigits (offset + c.utf8Size) cs).map (d :: ·)

/-- The bytes of digit values taken two by two, the higher one first. -/
def packed : List Nat → List UInt8
  | high :: low :: rest => UInt8.ofNat (high * 16 + low) :: packed rest
  | _ => []

/-- The id that a text of forty digits of either case stands for. The length is counted in bytes and
is looked at first. -/
def parse (s : String) : Except ParseError ObjectId :=
  if s.utf8ByteSize = 40 then
    match readDigits 0 s.toList with
    | .error e => .error e
    | .ok values =>
        match ofBytes? (packed values) with
        | some id => .ok id
        -- Never so: forty bytes that are all digits make twenty bytes.
        | none => .error (.invalidLength s.utf8ByteSize)
  else .error (.invalidLength s.utf8ByteSize)

/-- Puts a digit into the byte that its number leads to, into the upper half if the number is even.
There is no result if there is no such byte. -/
def put? (bytes : List UInt8) (number value : Nat) : Option (List UInt8) :=
  if number / 2 < bytes.length then
    let half := if number % 2 = 0 then UInt8.ofNat value <<< 4 else UInt8.ofNat value
    some (bytes.modify (number / 2) (· ||| half))
  else none

/-- Reads digits into bytes, the first one with the number and at the byte offset that are given.
There is no result if a digit is put outside the bytes. -/
def fill? (bytes : List UInt8) (number offset : Nat) :
    List Char → Option (Except ParseError (List UInt8))
  | [] => some (.ok bytes)
  | c :: cs =>
      match Text.Hex.value? c with
      | none => some (.error (.invalidCharacter c offset))
      | some value => do
          let bytes ← put? bytes number value
          fill? bytes (number + 1) (offset + c.utf8Size) cs

end ObjectId

end CommitHeader
