import CommitHeader.ObjectId
import CommitHeader.Proofs.Text.Hex
import Mathlib.Data.List.Induction

/-!
# The digits of an id

Reading succeeds if every character is a digit, and otherwise tells the first one that is none and
the bytes before it. Digits packed two by two into bytes are written as they were read but for their
case, and the digits of bytes are packed into these bytes again.
-/

namespace CommitHeader.ObjectId

open String (utf8Len utf8Len_cons)
open Text.Hex (IsDigit digit value?)

/-! ## Reading digits -/

theorem readDigits_cons_of_none {offset : Nat} {c : Char} (hc : value? c = none) (cs : List Char) :
    readDigits offset (c :: cs) = .error (.invalidCharacter c offset) := by
  rw [readDigits, hc]

theorem readDigits_cons_of_some {offset n : Nat} {c : Char} (hc : value? c = some n)
    (cs : List Char) : readDigits offset (c :: cs) =
      (readDigits (offset + c.utf8Size) cs).map (n :: ·) := by
  rw [readDigits, hc]

/-- What is read is written as the characters in lower case. -/
theorem readDigits_eq_ok_iff {offset : Nat} {cs : List Char} {values : List Nat} :
    readDigits offset cs = .ok values ↔
      (∀ n ∈ values, n < 16) ∧ values.map digit = cs.map Char.toLower := by
  induction cs generalizing offset values with
  | nil =>
      have hnil : readDigits offset [] = .ok [] := rfl
      cases values <;> simp [hnil]
  | cons c cs ih =>
      cases values with
      | nil =>
          cases hc : value? c with
          | none => simp [readDigits_cons_of_none hc]
          | some n =>
              rw [readDigits_cons_of_some hc]
              cases readDigits (offset + c.utf8Size) cs <;> simp [Except.map]
      | cons m values =>
          have hcons : ((∀ n ∈ m :: values, n < 16) ∧
              (m :: values).map digit = (c :: cs).map Char.toLower) ↔
              value? c = some m ∧ readDigits (offset + c.utf8Size) cs = .ok values := by
            rw [Text.Hex.value?_eq_some_iff, ih, List.forall_mem_cons, List.map_cons, List.map_cons,
              List.cons.injEq]
            exact and_and_and_comm
          rw [hcons]
          cases hc : value? c with
          | none => simp [readDigits_cons_of_none hc]
          | some n =>
              rw [readDigits_cons_of_some hc]
              cases readDigits (offset + c.utf8Size) cs <;> simp [Except.map]

theorem exists_readDigits_iff {offset : Nat} {cs : List Char} :
    (∃ values, readDigits offset cs = .ok values) ↔ ∀ c ∈ cs, IsDigit c := by
  induction cs generalizing offset with
  | nil => exact iff_of_true ⟨[], rfl⟩ (List.forall_mem_nil _)
  | cons c cs ih =>
      rw [List.forall_mem_cons, ← Text.Hex.exists_value?_iff, ← @ih (offset + c.utf8Size)]
      cases hc : value? c with
      | none => simp [readDigits_cons_of_none hc]
      | some n =>
          rw [readDigits_cons_of_some hc]
          cases readDigits (offset + c.utf8Size) cs <;> simp [Except.map]

theorem readDigits_append {before : List Char} {c : Char} (hbefore : ∀ b ∈ before, IsDigit b)
    (hc : ¬ IsDigit c) (after : List Char) (offset : Nat) :
    readDigits offset (before ++ c :: after) =
      .error (.invalidCharacter c (offset + utf8Len before)) := by
  induction before generalizing offset with
  | nil =>
      have hnone : value? c = none := by
        rw [Option.eq_none_iff_forall_ne_some]
        exact fun n hn => hc (Text.Hex.exists_value?_iff.mp ⟨n, hn⟩)
      exact readDigits_cons_of_none hnone after
  | cons b before ih =>
      obtain ⟨hb, hbefore⟩ := List.forall_mem_cons.mp hbefore
      obtain ⟨n, hn⟩ := Text.Hex.exists_value?_iff.mpr hb
      rw [List.cons_append, readDigits_cons_of_some hn, ih hbefore, utf8Len_cons, Nat.add_assoc,
        Nat.add_comm b.utf8Size]
      rfl

/-- Reading fails at the first character that is no digit. -/
theorem readDigits_eq_error_iff {offset : Nat} {cs : List Char} {e : ParseError} :
    readDigits offset cs = .error e ↔ ∃ before c after, cs = before ++ c :: after ∧
      (∀ b ∈ before, IsDigit b) ∧ ¬ IsDigit c ∧
        e = .invalidCharacter c (offset + utf8Len before) := by
  constructor
  · intro h
    cases hfind : cs.find? fun c => ¬ IsDigit c with
    | none =>
        have hdigits : ∀ c ∈ cs, IsDigit c := by simpa using hfind
        obtain ⟨values, hvalues⟩ := exists_readDigits_iff.mpr hdigits
        rw [h] at hvalues
        cases hvalues
    | some c =>
        obtain ⟨hc, before, after, rfl, hbefore⟩ := List.find?_eq_some_iff_append.mp hfind
        have hc : ¬ IsDigit c := by simpa using hc
        have hbefore : ∀ b ∈ before, IsDigit b := by simpa using hbefore
        rw [readDigits_append hbefore hc, Except.error.injEq] at h
        exact ⟨before, c, after, rfl, hbefore, hc, h.symm⟩
  · rintro ⟨before, c, after, rfl, hbefore, hc, rfl⟩
    exact readDigits_append hbefore hc after offset

/-! ## Packed digits -/

theorem packed_singleton (value : Nat) : packed [value] = [] := by simp [packed]

theorem length_packed (values : List Nat) : (packed values).length = values.length / 2 := by
  induction values using List.twoStepInduction with
  | nil => rfl
  | singleton value => simp [packed_singleton]
  | cons_cons high low rest ih _ =>
      rw [packed, List.length_cons, ih, List.length_cons, List.length_cons]
      omega

theorem ofByte_ofNat {high low : Nat} (hhigh : high < 16) (hlow : low < 16) :
    Text.Hex.ofByte (UInt8.ofNat (high * 16 + low)) = [digit high, digit low] := by
  have hnat : (UInt8.ofNat (high * 16 + low)).toNat = high * 16 + low := by
    rw [UInt8.toNat_ofNat']
    omega
  have hdiv : (high * 16 + low) / 16 = high := by omega
  have hmod : (high * 16 + low) % 16 = low := by omega
  rw [Text.Hex.ofByte, hnat, hdiv, hmod]

theorem flatMap_ofByte_packed {values : List Nat} (hlt : ∀ n ∈ values, n < 16)
    (heven : values.length % 2 = 0) :
    (packed values).flatMap Text.Hex.ofByte = values.map digit := by
  induction values using List.twoStepInduction with
  | nil => rfl
  | singleton value => simp at heven
  | cons_cons high low rest ih _ =>
      obtain ⟨hhigh, hlt⟩ := List.forall_mem_cons.mp hlt
      obtain ⟨hlow, hlt⟩ := List.forall_mem_cons.mp hlt
      rw [List.length_cons, List.length_cons] at heven
      rw [packed, List.flatMap_cons, ofByte_ofNat hhigh hlow, ih hlt (by omega)]
      rfl

/-- The values of the digits of bytes. -/
def values (bytes : List UInt8) : List Nat :=
  bytes.flatMap fun byte => [byte.toNat / 16, byte.toNat % 16]

theorem packed_values (bytes : List UInt8) : packed (values bytes) = bytes := by
  induction bytes with
  | nil => rfl
  | cons byte bytes ih =>
      have hcons : values (byte :: bytes) =
          byte.toNat / 16 :: byte.toNat % 16 :: values bytes := rfl
      have hbyte : byte.toNat / 16 * 16 + byte.toNat % 16 = byte.toNat := by omega
      rw [hcons, packed, ih, hbyte, UInt8.ofNat_toNat]

theorem lt_of_mem_values {bytes : List UInt8} {n : Nat} (h : n ∈ values bytes) : n < 16 := by
  obtain ⟨byte, -, hn⟩ := List.mem_flatMap.mp h
  have hbyte := byte.toNat_lt
  rw [List.mem_pair] at hn
  omega

theorem map_digit_values (bytes : List UInt8) :
    (values bytes).map digit = bytes.flatMap Text.Hex.ofByte := by
  rw [values, List.map_flatMap]
  rfl

end CommitHeader.ObjectId
