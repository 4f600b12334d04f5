import CommitHeader.ObjectId
import Mathlib.Algebra.BigOperators.Group.List.Basic

/-!
# The text of an id

Forty letters and digits, of which the short form has the first eight.
-/

namespace CommitHeader

namespace Text.Hex

theorem isAlphanum_digit {n : Nat} (h : n < 16) : (digit n).isAlphanum := by
  have hall : ∀ n < 16, (digit n).isAlphanum := by decide
  exact hall n h

end Text.Hex

namespace ObjectId

theorem isAlphanum_of_mem_digits {id : ObjectId} {c : Char} (h : c ∈ id.digits) :
    c.isAlphanum := by
  obtain ⟨byte, -, hdigit⟩ := List.mem_flatMap.mp h
  have hbyte := byte.toNat_lt
  rw [Text.Hex.ofByte, List.mem_pair] at hdigit
  rcases hdigit with rfl | rfl
  · exact Text.Hex.isAlphanum_digit (by omega)
  · exact Text.Hex.isAlphanum_digit (by omega)

theorem not_mem_hex {c : Char} (h : ¬ c.isAlphanum) (id : ObjectId) : c ∉ id.hex.toList := by
  rw [hex, String.toList_ofList]
  exact fun hdigit => h (isAlphanum_of_mem_digits hdigit)

theorem not_mem_short {c : Char} (h : ¬ c.isAlphanum) (id : ObjectId) : c ∉ id.short.toList := by
  rw [short, String.toList_ofList]
  exact fun hdigit => h (isAlphanum_of_mem_digits (List.mem_of_mem_take hdigit))

theorem length_digits (id : ObjectId) : id.digits.length = 40 := by
  have htwo : ∀ byte ∈ id.bytes, (Text.Hex.ofByte byte).length = 2 := fun _ _ => rfl
  rw [digits, List.length_flatMap, List.map_congr_left htwo, List.map_const', List.sum_replicate,
    id.length_bytes]
  rfl

theorem length_hex (id : ObjectId) : id.hex.length = 40 := by
  rw [hex, String.length_ofList, length_digits]

theorem length_short (id : ObjectId) : id.short.length = shortLength := by
  rw [short, String.length_ofList, List.length_take, length_digits]
  rfl

/-! ## Ids for examples -/

/-- The id of twenty equal bytes. -/
def repeated (byte : UInt8) : ObjectId := ⟨List.replicate 20 byte, List.length_replicate⟩

end ObjectId

end CommitHeader
