import CommitHeader.Text.Decimal
import Mathlib

/-!
# Decimal numbers read back

Digits, with or without zeros in front, stand for the number they were written from, and a sign is no
digit. So a written number is one number only.
-/

namespace CommitHeader.Text.Decimal

theorem ofDigits_eq_ofDigitChars (cs : List Char) : ofDigits cs = Nat.ofDigitChars 10 cs 0 := by
  rw [ofDigits, Nat.ofDigitChars]
  simp only [Nat.mul_comm]

@[simp] theorem zeroFilled_zero (n : Nat) : zeroFilled 0 n = digits n := by
  rw [zeroFilled, Nat.zero_sub]
  rfl

theorem ofDigits_zeroFilled (width n : Nat) : ofDigits (zeroFilled width n) = n := by
  rw [ofDigits_eq_ofDigitChars, zeroFilled, Nat.ofDigitChars_append,
    Nat.ofDigitChars_replicate_zero, Nat.mul_zero]
  exact Nat.ofDigitChars_ten_toDigits

theorem zeroFilled_injective {width m n : Nat} (h : zeroFilled width m = zeroFilled width n) :
    m = n := by
  rw [← ofDigits_zeroFilled width m, h, ofDigits_zeroFilled]

theorem digits_injective {m n : Nat} (h : digits m = digits n) : m = n := by
  rw [← zeroFilled_zero, ← zeroFilled_zero] at h
  exact zeroFilled_injective h

theorem isDigit_of_mem_zeroFilled {width n : Nat} {c : Char} (h : c ∈ zeroFilled width n) :
    c.isDigit = true := by
  rcases List.mem_append.mp h with hzero | hdigit
  · rw [List.eq_of_mem_replicate hzero]
    decide
  · exact Nat.isDigit_of_mem_toDigits (by decide) (by decide) hdigit

theorem not_mem_zeroFilled {width n : Nat} {c : Char} (hc : c.isDigit = false) :
    c ∉ zeroFilled width n := by
  intro h
  rw [isDigit_of_mem_zeroFilled h] at hc
  cases hc

theorem not_mem_digits {n : Nat} {c : Char} (hc : c.isDigit = false) : c ∉ digits n := by
  rw [← zeroFilled_zero]
  exact not_mem_zeroFilled hc

/-- The sign that a number is written with. -/
def sign (plus : Bool) (n : Int) : List Char :=
  if n < 0 then ['-'] else if plus then ['+'] else []

@[simp] theorem sign_false_of_nonneg {n : Int} (h : 0 ≤ n) : sign false n = [] :=
  if_neg (Int.not_lt.mpr h)

@[simp] theorem length_sign_true (n : Int) : (sign true n).length = 1 := by
  rw [sign, if_pos rfl]
  split_ifs <;> rfl

theorem isDigit_of_mem_sign {plus : Bool} {n : Int} {c : Char} (h : c ∈ sign plus n) :
    c.isDigit = false := by
  have hc : c = '-' ∨ c = '+' := by
    unfold sign at h
    split_ifs at h <;> simp_all
  rcases hc with rfl | rfl <;> decide

theorem write_zeros (width : Nat) (plus : Bool) (n : Int) :
    write .zeros width plus n =
      sign plus n ++ zeroFilled (width - (sign plus n).length) n.natAbs := by
  rw [zeroFilled, Nat.sub_sub]
  rfl

theorem twoPlaces_eq_digits : ∀ n < 100, twoPlaces .none n = digits n := by
  decide +kernel

theorem twoPlaces_eq_zeroFilled : ∀ n < 100, twoPlaces .zeros n = zeroFilled 2 n := by
  decide +kernel

/-- A part without digits in front of a filled number is told by what is no digit. -/
theorem append_zeroFilled_inj {sign sign' : List Char} {width m n : Nat}
    (hsign : ∀ c ∈ sign, c.isDigit = false) (hsign' : ∀ c ∈ sign', c.isDigit = false)
    (h : sign ++ zeroFilled width m = sign' ++ zeroFilled width n) : sign = sign' ∧ m = n := by
  have hfilter (part : List Char) (k : Nat) (hpart : ∀ c ∈ part, c.isDigit = false) :
      (part ++ zeroFilled width k).filter Char.isDigit = zeroFilled width k := by
    rw [List.filter_append, List.filter_eq_nil_iff.mpr (by simpa using hpart), List.nil_append]
    exact List.filter_eq_self.mpr fun c => isDigit_of_mem_zeroFilled
  have hdigits : zeroFilled width m = zeroFilled width n := by
    rw [← hfilter sign m hsign, h, hfilter sign' n hsign']
  rw [hdigits] at h
  exact ⟨List.append_cancel_right h, zeroFilled_injective hdigits⟩

end CommitHeader.Text.Decimal
