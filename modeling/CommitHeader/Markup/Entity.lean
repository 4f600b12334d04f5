/-!
# Character entities

The five characters with a meaning in markup are written as entities and every other character as
itself. Reading takes the same five entities back, from left to right, and leaves an ampersand that
begins none of them as it is.
-/

namespace CommitHeader.Markup.Entity

/-- The written form of one character. -/
def ofChar (c : Char) : List Char :=
  if c = '&' then ['&', 'a', 'm', 'p', ';']
  else if c = '<' then ['&', 'l', 't', ';']
  else if c = '>' then ['&', 'g', 't', ';']
  else if c = '"' then ['&', 'q', 'u', 'o', 't', ';']
  else if c = '\'' then ['&', '#', '3', '9', ';']
  else [c]

def encodeChars (cs : List Char) : List Char :=
  cs.flatMap ofChar

/-- The text that a written form stands for. -/
def decodeChars : List Char → List Char
  | '&' :: 'a' :: 'm' :: 'p' :: ';' :: rest => '&' :: decodeChars rest
  | '&' :: 'l' :: 't' :: ';' :: rest => '<' :: decodeChars rest
  | '&' :: 'g' :: 't' :: ';' :: rest => '>' :: decodeChars rest
  | '&' :: 'q' :: 'u' :: 'o' :: 't' :: ';' :: rest => '"' :: decodeChars rest
  | '&' :: '#' :: '3' :: '9' :: ';' :: rest => '\'' :: decodeChars rest
  | c :: rest => c :: decodeChars rest
  | [] => []

/-- The written form of a text, free of markup. -/
def encode (s : String) : String :=
  String.ofList (encodeChars s.toList)

def decode (s : String) : String :=
  String.ofList (decodeChars s.toList)

end CommitHeader.Markup.Entity
