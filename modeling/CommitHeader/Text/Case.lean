/-!
# Small letters

Folding ASCII capitals to small letters; every other character is left alone.
-/

namespace CommitHeader.Text

/-- A run of characters with its ASCII capitals as small letters. -/
def loweredChars (cs : List Char) : List Char :=
  cs.map Char.toLower

def lowered (s : String) : String :=
  String.ofList (loweredChars s.toList)

end CommitHeader.Text
