import CommitHeader.Text.Hex
import Mathlib.Data.Bool.AllAny
import Mathlib.Data.String.Basic

/-!
# Digits of either case

A character is read as a digit if it is one of the twenty-two ASCII digits, and what is written for
its value is that character in lower case.
-/

namespace CommitHeader.Text.Hex

/-- An ASCII hexadecimal digit of either case. -/
def IsDigit (c : Char) : Prop :=
  c ∈ ['0', '1', '2', '3', '4', '5', '6', '7', '8', '9', 'a', 'b', 'c', 'd', 'e', 'f',
    'A', 'B', 'C', 'D', 'E', 'F']

instance (c : Char) : Decidable (IsDigit c) := List.instDecidableMemOfLawfulBEq _ _

theorem IsDigit.toNat_lt {c : Char} (h : IsDigit c) : c.toNat < 128 := by
  have hall : ∀ c ∈ ['0', '1', '2', '3', '4', '5', '6', '7', '8', '9', 'a', 'b', 'c', 'd', 'e', 'f',
      'A', 'B', 'C', 'D', 'E', 'F'], c.toNat < 128 :=
    List.all_iff_forall_prop.mp (by decide)
  exact hall c h

theorem IsDigit.utf8Size_eq {c : Char} (h : IsDigit c) : c.utf8Size = 1 := by
  rw [Char.utf8Size_eq_one_iff, UInt32.le_iff_toNat_le]
  exact Nat.le_of_lt_succ h.toNat_lt

theorem toNat_digit_lt : ∀ n < 16, (digit n).toNat < 128 := by
  decide

theorem toLower_digit : ∀ n < 16, (digit n).toLower = digit n := by
  decide

theorem toLower_toUpper_digit : ∀ n < 16, (digit n).toUpper.toLower = digit n := by
  decide

/-! ## Characters beyond ASCII -/

theorem not_le_of_toNat {c d : Char} (h : d.toNat < c.toNat) : ¬ c ≤ d := by
  rw [Char.le_def, UInt32.le_iff_toNat_le]
  exact Nat.not_le.mpr h

theorem value?_eq_none_of_toNat {c : Char} (h : 128 ≤ c.toNat) : value? c = none := by
  have h9 : ¬ c ≤ '9' := not_le_of_toNat (Nat.lt_of_lt_of_le (by decide) h)
  have hf : ¬ c ≤ 'f' := not_le_of_toNat (Nat.lt_of_lt_of_le (by decide) h)
  have hF : ¬ c ≤ 'F' := not_le_of_toNat (Nat.lt_of_lt_of_le (by decide) h)
  simp [value?, h9, hf, hF]

theorem toLower_of_toNat {c : Char} (h : 128 ≤ c.toNat) : c.toLower = c := by
  have hZ : ¬ c.val ≤ 'Z'.val := not_le_of_toNat (Nat.lt_of_lt_of_le (by decide) h)
  exact dif_neg fun hupper => hZ hupper.2

/-! ## All characters -/

theorem forall_ascii (p : Char → Prop) (h : ∀ n < 128, p (Char.ofNat n)) {c : Char}
    (hc : c.toNat < 128) : p c := by
  have hchar := h c.toNat hc
  rwa [Char.ofNat_toNat] at hchar

theorem exists_value?_iff {c : Char} : (∃ n, value? c = some n) ↔ IsDigit c := by
  rw [← Option.isSome_iff_exists]
  rcases Nat.lt_or_ge c.toNat 128 with h | h
  · exact forall_ascii (fun c => (value? c).isSome = true ↔ IsDigit c) (by decide +kernel) h
  · have hdigit : ¬ IsDigit c := fun hc => absurd hc.toNat_lt (Nat.not_lt.mpr h)
    simp [value?_eq_none_of_toNat h, hdigit]

/-- A character is read as the number for which it is written but for its case. -/
theorem value?_eq_some_iff {c : Char} {n : Nat} :
    value? c = some n ↔ n < 16 ∧ digit n = c.toLower := by
  rcases Nat.lt_or_ge c.toNat 128 with h | h
  · have hlt : ∀ n ∈ value? c, n < 16 :=
      forall_ascii (fun c => ∀ n ∈ value? c, n < 16) (by decide +kernel) h
    have hdigit : ∀ n < 16, value? c = some n ↔ digit n = c.toLower :=
      forall_ascii (fun c => ∀ n < 16, value? c = some n ↔ digit n = c.toLower)
        (by decide +kernel) h
    constructor
    · intro hvalue
      exact ⟨hlt n hvalue, (hdigit n (hlt n hvalue)).mp hvalue⟩
    · rintro ⟨hn, hlower⟩
      exact (hdigit n hn).mpr hlower
  · have hdigit : ¬ (n < 16 ∧ digit n = c.toLower) := by
      rintro ⟨hn, hdigit⟩
      have hascii := toNat_digit_lt n hn
      rw [hdigit, toLower_of_toNat h] at hascii
      exact absurd hascii (Nat.not_lt.mpr h)
    simp [value?_eq_none_of_toNat h, hdigit]

end CommitHeader.Text.Hex
