import CommitHeader.Text.Cut

/-!
# Texts put together and taken apart

What taking a lead, a tail or a mark off a text says about the text.
-/

namespace CommitHeader.Text

theorem afterLead?_eq_some_iff {lead s rest : String} :
    afterLead? lead s = some rest ↔ s = lead ++ rest := by
  unfold afterLead?
  rw [Option.map_eq_some_iff]
  constructor
  · rintro ⟨cs, hcs, rfl⟩
    apply String.ext
    rw [String.toList_append, String.toList_ofList]
    exact dropLead?_eq_some_iff.mp hcs
  · rintro rfl
    exact ⟨rest.toList, dropLead?_eq_some_iff.mpr (String.toList_append ..), String.ofList_toList⟩

@[simp] theorem afterLead?_append (lead rest : String) : afterLead? lead (lead ++ rest) = some rest :=
  afterLead?_eq_some_iff.mpr rfl

/-- Of two texts neither of which begins with the other one, no text begins with both. -/
theorem afterLead?_append_eq_none {lead s : String} (hlead : ¬ lead.toList <+: s.toList)
    (hs : ¬ s.toList <+: lead.toList) (rest : String) : afterLead? lead (s ++ rest) = none := by
  rw [Option.eq_none_iff_forall_ne_some]
  intro after hafter
  have heq := congrArg String.toList (afterLead?_eq_some_iff.mp hafter)
  rw [String.toList_append, String.toList_append] at heq
  rcases List.append_eq_append_iff.mp heq with ⟨more, hmore, -⟩ | ⟨more, hmore, -⟩
  · exact hs ⟨more, hmore.symm⟩
  · exact hlead ⟨more, hmore.symm⟩

theorem beforeTail?_eq_some_iff {tail s rest : String} :
    beforeTail? tail s = some rest ↔ s = rest ++ tail := by
  unfold beforeTail?
  rw [Option.map_eq_some_iff]
  constructor
  · rintro ⟨cs, hcs, rfl⟩
    apply String.ext
    have hreverse := congrArg List.reverse (dropLead?_eq_some_iff.mp hcs)
    simpa using hreverse
  · rintro rfl
    refine ⟨rest.toList.reverse, dropLead?_eq_some_iff.mpr ?_, ?_⟩
    · rw [String.toList_append, List.reverse_append]
    · rw [List.reverse_reverse, String.ofList_toList]

@[simp] theorem beforeTail?_append (rest tail : String) :
    beforeTail? tail (rest ++ tail) = some rest :=
  beforeTail?_eq_some_iff.mpr rfl

/-- A mark stands first where it begins, if its first character does not occur before. -/
theorem cutAt?_append {c : Char} {before : List Char} (h : c ∉ before) (mark after : List Char) :
    cutAt? (c :: mark) (before ++ (c :: mark ++ after)) = some (before, after) := by
  induction before with
  | nil =>
      have hmark : dropLead? (c :: mark) (c :: (mark ++ after)) = some after :=
        dropLead?_eq_some_iff.mpr rfl
      rw [List.nil_append, List.cons_append, cutAt?, hmark]
  | cons b before ih =>
      have hb : c ≠ b := List.ne_of_not_mem_cons h
      rw [List.cons_append, cutAt?, dropLead?, if_neg hb, ih (List.not_mem_of_not_mem_cons h)]
      rfl

theorem cutFirst?_eq_some_iff {α : Type} [DecidableEq α] {mark : α} {cs before after : List α} :
    cutFirst? mark cs = some (before, after) ↔ cs = before ++ mark :: after ∧ mark ∉ before := by
  induction cs generalizing before with
  | nil => simp [cutFirst?]
  | cons c cs ih =>
      by_cases hc : c = mark
      · subst hc
        cases before with
        | nil => simp [cutFirst?]
        | cons b before => simp +contextual [cutFirst?]
      · cases before with
        | nil => simp [cutFirst?, hc]
        | cons b before =>
            simp only [cutFirst?, hc, if_false, Option.map_eq_some_iff, Prod.exists]
            constructor
            · intro h
              obtain ⟨first, rest, hcut, heq⟩ := h
              cases heq
              obtain ⟨rfl, hmark⟩ := ih.mp hcut
              exact ⟨rfl, List.not_mem_cons_of_ne_of_not_mem (Ne.symm hc) hmark⟩
            · intro h
              obtain ⟨heq, hmark⟩ := h
              obtain ⟨rfl, rfl⟩ := List.cons.inj heq
              exact ⟨before, after, ih.mpr ⟨rfl, List.not_mem_of_not_mem_cons hmark⟩, rfl⟩

/-- The first mark in a text is where it is, so the parts around it are told apart. -/
theorem append_mark_inj {α : Type} [DecidableEq α] {mark : α} {before after before' after' : List α}
    (hbefore : mark ∉ before) (hbefore' : mark ∉ before') :
    before ++ mark :: after = before' ++ mark :: after' ↔ before = before' ∧ after = after' := by
  constructor
  · intro h
    have hcut := cutFirst?_eq_some_iff.mpr ⟨h, hbefore'⟩
    rw [cutFirst?_eq_some_iff.mpr ⟨rfl, hbefore⟩] at hcut
    exact Prod.mk.inj (Option.some.inj hcut)
  · rintro ⟨rfl, rfl⟩
    rfl

/-- A mark that stands behind a part without it stands in what follows that part. -/
theorem exists_of_append_eq_append_mark {α : Type} {mark : α} {part rest before after : List α}
    (h : part ++ rest = before ++ mark :: after) (hpart : mark ∉ part) :
    ∃ more, before = part ++ more ∧ rest = more ++ mark :: after := by
  rcases List.append_eq_append_iff.mp h with ⟨more, hbefore, hrest⟩ | ⟨more, hsplit, hrest⟩
  · exact ⟨more, hbefore, hrest⟩
  · cases more with
    | nil => exact ⟨[], by simpa using hsplit.symm, by simpa using hrest.symm⟩
    | cons m more =>
        obtain ⟨rfl, -⟩ := List.cons.inj hrest
        rw [hsplit] at hpart
        exact absurd (List.mem_append_right _ List.mem_cons_self) hpart

theorem exists_cutLast?_iff {α : Type} [DecidableEq α] {mark : α} {cs : List α} :
    (∃ cut, cutLast? mark cs = some cut) ↔ mark ∈ cs := by
  induction cs with
  | nil => simp [cutLast?]
  | cons c cs ih =>
      cases hcut : cutLast? mark cs with
      | none =>
          have hcs : mark ∉ cs := by simp [← ih, hcut]
          simp [cutLast?, hcut, hcs, eq_comm]
      | some cut =>
          have hcs : mark ∈ cs := ih.mp ⟨cut, hcut⟩
          simp [cutLast?, hcut, hcs]

theorem cutLast?_eq_none_iff {α : Type} [DecidableEq α] {mark : α} {cs : List α} :
    cutLast? mark cs = none ↔ mark ∉ cs := by
  rw [← exists_cutLast?_iff, ← Option.isSome_iff_exists, Option.not_isSome_iff_eq_none]

theorem cutLast?_eq_some_iff {α : Type} [DecidableEq α] {mark : α} {cs before after : List α} :
    cutLast? mark cs = some (before, after) ↔ cs = before ++ mark :: after ∧ mark ∉ after := by
  induction cs generalizing before with
  | nil => simp [cutLast?]
  | cons c cs ih =>
      -- Whether the mark at the front is the last one depends on the rest.
      cases hcut : cutLast? mark cs with
      | none =>
          have hcs : mark ∉ cs := cutLast?_eq_none_iff.mp hcut
          cases before with
          | nil =>
              have hswap : c = mark ∧ cs = after ↔ (c = mark ∧ cs = after) ∧ mark ∉ after :=
                ⟨fun h => ⟨h, h.2 ▸ hcs⟩, fun h => h.1⟩
              simpa [cutLast?, hcut] using hswap
          | cons b before =>
              have hrest : ¬ (cs = before ++ mark :: after) := by
                rintro rfl
                exact hcs (List.mem_append_right _ List.mem_cons_self)
              simp [cutLast?, hcut, hrest]
      | some cut =>
          obtain ⟨first, rest⟩ := cut
          have hcs : mark ∈ cs := exists_cutLast?_iff.mp ⟨_, hcut⟩
          cases before with
          | nil =>
              have hrest : ¬ ((c = mark ∧ cs = after) ∧ mark ∉ after) := by
                rintro ⟨⟨-, rfl⟩, hafter⟩
                exact hafter hcs
              simpa [cutLast?, hcut] using hrest
          | cons b before =>
              have hrest := @ih before
              rw [hcut] at hrest
              simp only [Option.some.injEq, Prod.mk.injEq] at hrest
              simp [cutLast?, hcut, hrest, and_assoc]

/-- The last mark in a text is where it is, so the parts around it are told apart. -/
theorem append_lastMark_inj {α : Type} [DecidableEq α] {mark : α}
    {before after before' after' : List α} (hafter : mark ∉ after) (hafter' : mark ∉ after') :
    before ++ mark :: after = before' ++ mark :: after' ↔ before = before' ∧ after = after' := by
  constructor
  · intro h
    have hcut := cutLast?_eq_some_iff.mpr ⟨h, hafter'⟩
    rw [cutLast?_eq_some_iff.mpr ⟨rfl, hafter⟩] at hcut
    exact Prod.mk.inj (Option.some.inj hcut)
  · rintro ⟨rfl, rfl⟩
    rfl

/-! ## Pieces between marks -/

section Pieces

variable {α : Type} [DecidableEq α] {mark : α}

theorem cutEach_of_not_mem {cs : List α} (h : mark ∉ cs) : cutEach mark cs = [cs] := by
  induction cs with
  | nil => rfl
  | cons c cs ih =>
      have hc : c ≠ mark := Ne.symm (List.ne_of_not_mem_cons h)
      rw [cutEach, if_neg hc, ih (List.not_mem_of_not_mem_cons h)]

theorem cutEach_append {piece : List α} (h : mark ∉ piece) (rest : List α) :
    cutEach mark (piece ++ mark :: rest) = piece :: cutEach mark rest := by
  induction piece with
  | nil => rw [List.nil_append, cutEach, if_pos rfl]
  | cons c piece ih =>
      have hc : c ≠ mark := Ne.symm (List.ne_of_not_mem_cons h)
      rw [List.cons_append, cutEach, if_neg hc, ih (List.not_mem_of_not_mem_cons h)]

theorem cutEach_ne_nil (mark : α) (cs : List α) : cutEach mark cs ≠ [] := by
  cases cs with
  | nil => simp [cutEach]
  | cons c cs =>
      unfold cutEach
      split
      · simp
      · cases cutEach mark cs <;> simp

end Pieces

end CommitHeader.Text
