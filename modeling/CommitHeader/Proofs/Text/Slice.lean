import CommitHeader.Proofs.Text.Cut
import CommitHeader.Text.Slice
import Mathlib.Data.String.Basic

/-!
# Texts cut at byte offsets

The offset of a character that was found, and the one just behind it, are always places at which a
text can be cut.
-/

namespace CommitHeader.Text

open String (utf8Len utf8Len_nil utf8Len_cons utf8Len_append)

theorem cutAtByte?_utf8Len (before after : List Char) :
    cutAtByte? (utf8Len before) (before ++ after) = some (before, after) := by
  induction before with
  | nil => simp [cutAtByte?]
  | cons c before ih =>
      have hsize := c.utf8Size_pos
      obtain ⟨n, hn⟩ : ∃ n, utf8Len (c :: before) = n + 1 :=
        Nat.exists_eq_succ_of_ne_zero (by rw [utf8Len_cons]; omega)
      have hrest : n + 1 - c.utf8Size = utf8Len before := by
        rw [← hn, utf8Len_cons, Nat.add_sub_cancel]
      have hle : c.utf8Size ≤ n + 1 := by
        rw [← hn, utf8Len_cons]
        exact Nat.le_add_left _ _
      rw [hn, List.cons_append, cutAtByte?, if_pos hle, hrest, ih]
      rfl

theorem slice?_between (before part after : List Char) :
    slice? (utf8Len before) (utf8Len before + utf8Len part) (before ++ (part ++ after)) =
      some part := by
  rw [slice?, if_pos (Nat.le_add_right _ _), cutAtByte?_utf8Len, Nat.add_sub_cancel_left]
  simp only [Option.bind_eq_bind, Option.bind_some, cutAtByte?_utf8Len]

theorem slice?_of_lt {start stop : Nat} (h : stop < start) (cs : List Char) :
    slice? start stop cs = none :=
  if_neg (Nat.not_le.mpr h)

theorem firstOffset?_eq_some_iff {mark : Char} {cs : List Char} {offset : Nat} :
    firstOffset? mark cs = some offset ↔
      ∃ before after, cs = before ++ mark :: after ∧ mark ∉ before ∧ utf8Len before = offset := by
  simp [firstOffset?, cutFirst?_eq_some_iff, String.utf8ByteSize_ofList, and_assoc]

theorem lastOffset?_eq_some_iff {mark : Char} {cs : List Char} {offset : Nat} :
    lastOffset? mark cs = some offset ↔
      ∃ before after, cs = before ++ mark :: after ∧ mark ∉ after ∧ utf8Len before = offset := by
  simp [lastOffset?, cutLast?_eq_some_iff, String.utf8ByteSize_ofList, and_assoc]

/-- Of two different marks in a text one comes first. -/
theorem append_mark_cases {opening closing : Char} (hne : opening ≠ closing)
    {before after before' after' : List Char}
    (h : before ++ opening :: after = before' ++ closing :: after') :
    (∃ part, before' = before ++ opening :: part ∧ after = part ++ closing :: after') ∨
      ∃ part, before = before' ++ closing :: part ∧ after' = part ++ opening :: after := by
  rcases List.append_eq_append_iff.mp h with ⟨more, hbefore, hrest⟩ | ⟨more, hbefore, hrest⟩
  · cases more with
    | nil => exact absurd (List.cons.inj hrest).1 hne
    | cons m part =>
        obtain ⟨rfl, hafter⟩ := List.cons.inj hrest
        exact Or.inl ⟨part, hbefore, hafter⟩
  · cases more with
    | nil => exact absurd (List.cons.inj hrest).1.symm hne
    | cons m part =>
        obtain ⟨rfl, hafter⟩ := List.cons.inj hrest
        exact Or.inr ⟨part, hbefore, hafter⟩

/-- From one mark to another there is a slice if they stand in this order, and none otherwise. -/
theorem slice?_marks {opening closing : Char} (hne : opening ≠ closing)
    {before after before' after' : List Char}
    (h : before ++ opening :: after = before' ++ closing :: after') :
    (∃ part, before' = before ++ opening :: part ∧ after = part ++ closing :: after' ∧
      utf8Len before < utf8Len before' ∧
      slice? (utf8Len before + opening.utf8Size) (utf8Len before') (before ++ opening :: after) =
        some part) ∨
    ∃ part, before = before' ++ closing :: part ∧ after' = part ++ opening :: after ∧
      utf8Len before' < utf8Len before ∧
      slice? (utf8Len before + opening.utf8Size) (utf8Len before') (before ++ opening :: after) =
        none := by
  have hopening := opening.utf8Size_pos
  have hclosing := closing.utf8Size_pos
  rcases append_mark_cases hne h with ⟨part, rfl, rfl⟩ | ⟨part, rfl, rfl⟩
  · refine Or.inl ⟨part, rfl, rfl, ?_, ?_⟩
    · rw [utf8Len_append, utf8Len_cons]
      omega
    · have hslice := slice?_between (before ++ [opening]) part (closing :: after')
      have hstart : utf8Len (before ++ [opening]) = utf8Len before + opening.utf8Size := by
        rw [utf8Len_append, utf8Len_cons, utf8Len_nil, Nat.zero_add]
      have hstop : utf8Len before + opening.utf8Size + utf8Len part =
          utf8Len (before ++ opening :: part) := by
        rw [utf8Len_append, utf8Len_cons]
        omega
      rw [hstart, hstop, List.append_assoc, List.singleton_append] at hslice
      exact hslice
  · have hlt : utf8Len before' < utf8Len (before' ++ closing :: part) := by
      rw [utf8Len_append, utf8Len_cons]
      omega
    exact Or.inr ⟨part, rfl, rfl, hlt, slice?_of_lt (by omega) _⟩

end CommitHeader.Text
