import CommitHeader.Proofs.ObjectId
import Mathlib.Data.String.Basic

/-!
# The order of ids

The higher digit of a byte goes first, in the byte and in the text, and digits are ordered as their
values. So the first byte in which two ids differ decides about their texts as it does about them.
-/

namespace CommitHeader

/-! ## Digits and bytes -/

namespace Text.Hex

theorem compare_digit : ∀ m < 16, ∀ n < 16, compare (digit m) (digit n) = compare m n := by
  decide +kernel

/-- Of two numbers the higher halves decide, and the lower ones where those are the same. -/
theorem compare_halves (m n : Nat) :
    (compare (m / 16) (n / 16)).then (compare (m % 16) (n % 16)) = compare m n := by
  cases hhigh : compare (m / 16) (n / 16) with
  | lt =>
      have hlt := Nat.compare_eq_lt.mp hhigh
      exact (Nat.compare_eq_lt.mpr (by omega)).symm
  | gt =>
      have hgt := Nat.compare_eq_gt.mp hhigh
      exact (Nat.compare_eq_gt.mpr (by omega)).symm
  | eq =>
      have heq := Nat.compare_eq_eq.mp hhigh
      rw [Ordering.eq_then]
      cases hlow : compare (m % 16) (n % 16) with
      | lt =>
          have hlt := Nat.compare_eq_lt.mp hlow
          exact (Nat.compare_eq_lt.mpr (by omega)).symm
      | gt =>
          have hgt := Nat.compare_eq_gt.mp hlow
          exact (Nat.compare_eq_gt.mpr (by omega)).symm
      | eq =>
          have hsame := Nat.compare_eq_eq.mp hlow
          exact (Nat.compare_eq_eq.mpr (by omega)).symm

theorem compare_toNat (a b : UInt8) : compare a.toNat b.toNat = compare a b := by
  change compareOfLessAndEq a.toNat b.toNat = compareOfLessAndEq a b
  simp only [compareOfLessAndEq, UInt8.lt_iff_toNat_lt, UInt8.toNat_inj]

/-- The digits of a byte decide as the byte does, and leave the rest to decide where it does. -/
theorem compare_ofByte_append (a b : UInt8) (as bs : List Char) :
    compare (ofByte a ++ as) (ofByte b ++ bs) = (compare a b).then (compare as bs) := by
  have ha := a.toNat_lt
  have hb := b.toNat_lt
  calc compare (ofByte a ++ as) (ofByte b ++ bs)
      = (compare (digit (a.toNat / 16)) (digit (b.toNat / 16))).then
          ((compare (digit (a.toNat % 16)) (digit (b.toNat % 16))).then (compare as bs)) :=
        List.compare_cons_cons.trans (congrArg _ List.compare_cons_cons)
    _ = (compare (a.toNat / 16) (b.toNat / 16)).then
          ((compare (a.toNat % 16) (b.toNat % 16)).then (compare as bs)) := by
        rw [compare_digit _ (by omega) _ (by omega), compare_digit _ (by omega) _ (by omega)]
    _ = (compare a b).then (compare as bs) := by
        rw [← Ordering.then_assoc, compare_halves, compare_toNat]

theorem compare_flatMap_ofByte (as bs : List UInt8) :
    compare (as.flatMap ofByte) (bs.flatMap ofByte) = compare as bs := by
  induction as generalizing bs with
  | nil => cases bs <;> simp [ofByte]
  | cons a as ih =>
      cases bs with
      | nil => simp [ofByte]
      | cons b bs =>
          rw [List.flatMap_cons, List.flatMap_cons, compare_ofByte_append, ih,
            List.compare_cons_cons]

end Text.Hex

/-! ## Texts -/

namespace Text

theorem compare_chars_eq_lt_iff {as bs : List Char} : compare as bs = .lt ↔ as < bs := by
  induction as generalizing bs with
  | nil => cases bs <;> simp
  | cons a as ih =>
      cases bs with
      | nil => simp
      | cons b bs =>
          rw [List.compare_cons_cons, Ordering.then_eq_lt, List.cons_lt_cons_iff,
            Std.LawfulLTCmp.eq_lt_iff_lt, Std.LawfulEqCmp.compare_eq_iff_eq, ih]

/-- Texts are compared character by character. -/
theorem compare_toList (s t : String) : compare s.toList t.toList = compare s t := by
  cases hchars : compare s.toList t.toList with
  | lt =>
      have hlt : s < t := compare_chars_eq_lt_iff.mp hchars
      exact (Std.LawfulLTCmp.eq_lt_iff_lt.mpr hlt).symm
  | eq =>
      have heq : s = t := String.toList_inj.mp (Std.LawfulEqCmp.eq_of_compare hchars)
      exact (Std.LawfulEqCmp.compare_eq_iff_eq.mpr heq).symm
  | gt =>
      have hlt : t < s := compare_chars_eq_lt_iff.mp (Std.OrientedCmp.lt_of_gt hchars)
      exact (Std.OrientedCmp.gt_of_lt (Std.LawfulLTCmp.eq_lt_iff_lt.mpr hlt)).symm

/-- What is cut off both texts at one place does not turn their order round. -/
theorem isLE_compare_take {as bs : List Char} (h : (compare as bs).isLE) (n : Nat) :
    (compare (as.take n) (bs.take n)).isLE := by
  induction n generalizing as bs with
  | zero => simp
  | succ n ih =>
      cases as with
      | nil => cases bs <;> simp
      | cons a as =>
          cases bs with
          | nil => simp at h
          | cons b bs =>
              rw [List.compare_cons_cons, Ordering.isLE_then_iff_or] at h
              rw [List.take_succ_cons, List.take_succ_cons, List.compare_cons_cons,
                Ordering.isLE_then_iff_or]
              rcases h with hlt | ⟨heq, hrest⟩
              · exact Or.inl hlt
              · exact Or.inr ⟨heq, ih hrest⟩

end Text

/-! ## Ids -/

namespace ObjectId

instance : Std.TransOrd ObjectId where
  eq_swap {a b} := Std.OrientedOrd.eq_swap (a := a.bytes) (b := b.bytes)
  isLE_trans {a b c} := Std.TransOrd.isLE_trans (a := a.bytes) (b := b.bytes) (c := c.bytes)

theorem compare_hex (a b : ObjectId) : compare a.hex b.hex = compare a b := by
  rw [← Text.compare_toList, hex, hex, String.toList_ofList, String.toList_ofList]
  exact Text.Hex.compare_flatMap_ofByte a.bytes b.bytes

theorem sorted_pairwise (ids : List ObjectId) :
    (sorted ids).Pairwise fun a b => (compare a b).isLE := by
  have htrans : ∀ a b c : ObjectId, (compare a b).isLE → (compare b c).isLE → (compare a c).isLE :=
    fun _ _ _ => Std.TransOrd.isLE_trans
  have htotal : ∀ a b : ObjectId, ((compare a b).isLE || (compare b a).isLE) = true := by
    intro a b
    rw [Std.OrientedOrd.eq_swap (a := b)]
    cases compare a b <;> rfl
  exact List.pairwise_mergeSort htrans htotal ids

theorem short_le_short {a b : ObjectId} (h : (compare a b).isLE) : a.short ≤ b.short := by
  have hdigits : (compare a.digits b.digits).isLE := by
    rwa [digits, digits, Text.Hex.compare_flatMap_ofByte]
  have hshort : (compare a.short b.short).isLE := by
    rw [← Text.compare_toList, short, short, String.toList_ofList, String.toList_ofList]
    exact Text.isLE_compare_take hdigits shortLength
  exact Std.LawfulLECmp.isLE_iff_le.mp hshort

/-- Two ids compare as their texts do, whichever of the two is less. So ids that are put in order
have their texts in order, and the lesser id does not have the greater short form. -/
theorem ids_are_ordered_as_texts (a b : ObjectId) (ids : List ObjectId) :
    compare a b = compare a.hex b.hex ∧
    ((sorted ids).Perm ids ∧ (sorted ids).Pairwise fun low high => (compare low high).isLE) ∧
    (sorted ids).map hex = (ids.map hex).mergeSort (fun s t => (compare s t).isLE) ∧
    ((compare a b).isLE → a.short ≤ b.short) := by
  refine ⟨(compare_hex a b).symm, ⟨List.mergeSort_perm ids _, sorted_pairwise ids⟩, ?_,
    short_le_short⟩
  exact List.map_mergeSort fun low _ high _ => by rw [compare_hex]

/-- The digit that differs is the higher one in one pair and the lower one in the other. -/
theorem ids_are_ordered_as_texts_sample :
    (compare (repeated 0x9f) (repeated 0xa0)).isLE ∧
      (repeated 0x9f).short ≤ (repeated 0xa0).short ∧
      compare (repeated 0x9f).hex (repeated 0xa0).hex = .lt ∧
      (compare (repeated 0x9a) (repeated 0x9f)).isLE ∧
      (repeated 0x9a).short ≤ (repeated 0x9f).short := by
  obtain ⟨hcompare, -, -, hshort⟩ := ids_are_ordered_as_texts (repeated 0x9f) (repeated 0xa0) []
  obtain ⟨-, -, -, hshort'⟩ := ids_are_ordered_as_texts (repeated 0x9a) (repeated 0x9f) []
  have hle : (compare (repeated 0x9f) (repeated 0xa0)).isLE := by decide +kernel
  have hle' : (compare (repeated 0x9a) (repeated 0x9f)).isLE := by decide +kernel
  have hlt : compare (repeated 0x9f) (repeated 0xa0) = .lt := by decide +kernel
  exact ⟨hle, hshort hle, hcompare.symm.trans hlt, hle', hshort' hle'⟩

end ObjectId

end CommitHeader
