import CommitHeader.Proofs.ObjectId.Digits

/-!
# Bytes filled digit by digit

The bytes of an id can be filled in place: each digit is put into its half of the byte that its
number leads to. What has been read so far and zeros for what is still to come is then packed at
every step, so the bytes end up as the digits packed two by two. No digit is put beyond the last
byte if there are at most twice as many digits as bytes.
-/

namespace CommitHeader.ObjectId

open Text.Hex (value?)

theorem put?_zero (byte : UInt8) (bytes : List UInt8) (value : Nat) :
    put? (byte :: bytes) 0 value = some ((byte ||| UInt8.ofNat value <<< 4) :: bytes) := by
  simp [put?]

theorem put?_one (byte : UInt8) (bytes : List UInt8) (value : Nat) :
    put? (byte :: bytes) 1 value = some ((byte ||| UInt8.ofNat value) :: bytes) := by
  simp [put?]

theorem put?_cons (byte : UInt8) (bytes : List UInt8) (number value : Nat) :
    put? (byte :: bytes) (number + 2) value = (put? bytes number value).map (byte :: ·) := by
  have hdiv : (number + 2) / 2 = number / 2 + 1 := by omega
  by_cases h : number / 2 < bytes.length <;> simp [put?, hdiv, h]

theorem or_high : ∀ value < 16,
    UInt8.ofNat (0 * 16 + 0) ||| UInt8.ofNat value <<< 4 = UInt8.ofNat (value * 16 + 0) := by
  decide

theorem or_low : ∀ high < 16, ∀ value < 16,
    UInt8.ofNat (high * 16 + 0) ||| UInt8.ofNat value = UInt8.ofNat (high * 16 + value) := by
  decide +kernel

/-- A digit put behind those that were read takes the place of the first zero. -/
theorem put?_packed {read : List Nat} {value left : Nat} (hread : ∀ n ∈ read, n < 16)
    (hvalue : value < 16) (heven : (read.length + left + 1) % 2 = 0) :
    put? (packed (read ++ 0 :: List.replicate left 0)) read.length value =
      some (packed (read ++ value :: List.replicate left 0)) := by
  induction read using List.twoStepInduction with
  | nil =>
      -- The digit is the upper one of its byte, and the lower one is still to come.
      obtain ⟨more, rfl⟩ : ∃ more, left = more + 1 := by
        cases left with
        | zero => simp at heven
        | succ more => exact ⟨more, rfl⟩
      rw [List.replicate_succ, List.nil_append, List.nil_append, packed, packed, List.length_nil,
        put?_zero, or_high value hvalue]
  | singleton high =>
      have hhigh : high < 16 := hread high List.mem_cons_self
      rw [List.singleton_append, List.singleton_append, packed, packed, List.length_singleton,
        put?_one, or_low high hhigh value hvalue]
  | cons_cons high low rest ih _ =>
      obtain ⟨-, hread⟩ := List.forall_mem_cons.mp hread
      obtain ⟨-, hread⟩ := List.forall_mem_cons.mp hread
      rw [List.length_cons, List.length_cons] at heven ⊢
      rw [List.cons_append, List.cons_append, List.cons_append, List.cons_append, packed, packed,
        put?_cons, ih hread (by omega)]
      rfl

/-- The bytes hold the digits read so far, packed, with zeros for those still to come and for `left`
more. -/
theorem fill?_packed {read : List Nat} (hread : ∀ n ∈ read, n < 16) (cs : List Char) (left : Nat)
    (heven : (read.length + cs.length + left) % 2 = 0) (offset : Nat) :
    fill? (packed (read ++ List.replicate (cs.length + left) 0)) read.length offset cs =
      some ((readDigits offset cs).map fun values =>
        packed (read ++ (values ++ List.replicate left 0))) := by
  induction cs generalizing read offset with
  | nil =>
      rw [List.length_nil, Nat.zero_add, fill?]
      rfl
  | cons c cs ih =>
      rw [List.length_cons] at heven ⊢
      rw [fill?]
      cases hc : value? c with
      | none => rw [readDigits_cons_of_none hc]; rfl
      | some n =>
          have hn : n < 16 := (Text.Hex.value?_eq_some_iff.mp hc).1
          have hzeros : cs.length + 1 + left = cs.length + left + 1 := Nat.add_right_comm _ _ _
          have hput : put? (packed (read ++ 0 :: List.replicate (cs.length + left) 0)) read.length n =
              some (packed (read ++ n :: List.replicate (cs.length + left) 0)) :=
            put?_packed hread hn (by omega)
          have hread' : ∀ m ∈ read ++ [n], m < 16 := by
            intro m hm
            rcases List.mem_append.mp hm with hm | hm
            · exact hread m hm
            · rwa [List.mem_singleton.mp hm]
          have hrest := ih hread' (by rw [List.length_append, List.length_singleton]; omega)
            (offset + c.utf8Size)
          rw [List.length_append, List.length_singleton, List.append_assoc, List.singleton_append]
            at hrest
          rw [hzeros, List.replicate_succ]
          simp only [hput, Option.bind_eq_bind, Option.bind_some, hrest]
          rw [readDigits_cons_of_some hc]
          cases readDigits (offset + c.utf8Size) cs with
          | error e => rfl
          | ok values => simp [Except.map]

end CommitHeader.ObjectId
