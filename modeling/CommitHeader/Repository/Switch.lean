import CommitHeader.Repository.Config
import CommitHeader.Text.Integer

/-!
# Switches

Values of a configuration that say yes or no: in words, or as a number, which says no if it is zero.
-/

namespace CommitHeader.Switch

/-- The words for yes and for no; nothing at all is a no. -/
def words : List String := ["true", "yes", "on", "false", "no", "off", ""]

/-- How many times a unit multiplies a number. -/
def unit? : List Char → Option Int
  | [] => some 1
  | ['k'] | ['K'] => some 1024
  | ['m'] | ['M'] => some (1024 * 1024)
  | ['g'] | ['G'] => some (1024 * 1024 * 1024)
  | _ => none

/-- Whether a text is a number, perhaps with a unit, that fits into 32 bits with a sign. -/
def isNumber (text : String) : Bool :=
  match Text.Integer.read? Text.Integer.anyBase? text.toList with
  | none => false
  | some (n, rest) => (unit? rest).any fun unit => -0x80000000 ≤ n * unit && n * unit < 0x80000000

def isSwitch (text : String) : Bool :=
  words.contains (Text.lowered text) || isNumber text

end CommitHeader.Switch
