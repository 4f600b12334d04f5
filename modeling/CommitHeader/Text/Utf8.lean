/-!
# UTF-8

Bytes are cut into characters and malformed parts. A malformed part is the longest run of bytes that
could still have begun a character, or a single byte that cannot begin one. A strict reader refuses
text with such a part and a lenient one puts U+FFFD in its place.
-/

namespace CommitHeader.Text.Utf8

/-- A character whose first bytes have been read: the value of their bits, the bounds of the next
byte, and how many bytes are still to come. -/
structure Partial where
  bits : Nat
  low : Nat
  high : Nat
  missing : Nat

/-- What a byte is at the start of a character. -/
inductive Start
  | complete (c : Char)
  | opens (p : Partial)
  | malformed

/-- The first byte of a character. -/
def Start.ofByte (b : UInt8) : Start :=
  let n := b.toNat
  if n < 0x80 then .complete (Char.ofNat n)
  -- The bounds of the second byte keep out overlong forms, surrogates and numbers above U+10FFFF.
  else if n < 0xc2 then .malformed
  else if n < 0xe0 then .opens ⟨n - 0xc0, 0x80, 0xbf, 1⟩
  else if n = 0xe0 then .opens ⟨0, 0xa0, 0xbf, 2⟩
  else if n = 0xed then .opens ⟨n - 0xe0, 0x80, 0x9f, 2⟩
  else if n < 0xf0 then .opens ⟨n - 0xe0, 0x80, 0xbf, 2⟩
  else if n = 0xf0 then .opens ⟨0, 0x90, 0xbf, 3⟩
  else if n < 0xf4 then .opens ⟨n - 0xf0, 0x80, 0xbf, 3⟩
  else if n = 0xf4 then .opens ⟨n - 0xf0, 0x80, 0x8f, 3⟩
  else .malformed

/-- The characters of a run of bytes in order, `none` standing for each malformed part. The first
argument is the character that the bytes before left open. -/
def pieces : Option Partial → List UInt8 → List (Option Char)
  | none, [] => []
  | some _, [] => [none]
  | none, b :: rest =>
      match Start.ofByte b with
      | .complete c => some c :: pieces none rest
      | .opens p => pieces (some p) rest
      | .malformed => none :: pieces none rest
  | some p, b :: rest =>
      if p.low ≤ b.toNat ∧ b.toNat ≤ p.high then
        let bits := p.bits * 64 + b.toNat % 64
        match p.missing with
        | 0 | 1 => some (Char.ofNat bits) :: pieces none rest
        | n + 2 => pieces (some ⟨bits, 0x80, 0xbf, n + 1⟩) rest
      else
        match Start.ofByte b with
        | .complete c => none :: some c :: pieces none rest
        | .opens q => none :: pieces (some q) rest
        | .malformed => none :: none :: pieces none rest

/-- The text of well-formed bytes. -/
def decode? (bytes : List UInt8) : Option String :=
  ((pieces none bytes).mapM id).map String.ofList

/-- The text of any bytes, with U+FFFD for each malformed part. -/
def decodeLossy (bytes : List UInt8) : String :=
  String.ofList ((pieces none bytes).map (·.getD '\ufffd'))

end CommitHeader.Text.Utf8
