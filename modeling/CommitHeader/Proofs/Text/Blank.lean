import CommitHeader.Proofs.Text.Cut
import CommitHeader.Text.Blank
import Mathlib

/-!
# Lines and blanks

A text is cut into lines at its line feeds. A carriage return just before a line feed is part of the
line's end, and what follows the last line feed is a line of its own unless it is empty. The first
line with a character other than a blank, from that character on, is the first line of the text
without its leading blanks: whatever blanks stand before that character, whole lines of them
included, are taken away at once.
-/

namespace CommitHeader.Text

/-! ## Lines -/

/-- A line without a carriage return at its end. -/
def dropReturn (line : List Char) : List Char :=
  if line.getLast? = some '\r' then line.dropLast else line

/-- The lines that the pieces between line feeds make. A line feed ends every piece but the last. -/
def linesOfPieces : List (List Char) → List (List Char)
  | [] => []
  | [last] => if last.isEmpty then [] else [last]
  | piece :: next :: pieces => dropReturn piece :: linesOfPieces (next :: pieces)

/-- The lines of a text, without their ends. -/
def lines (cs : List Char) : List (List Char) :=
  linesOfPieces (cutEach '\n' cs)

theorem lines_of_not_mem {cs : List Char} (h : '\n' ∉ cs) :
    lines cs = if cs.isEmpty then [] else [cs] := by
  rw [lines, cutEach_of_not_mem h, linesOfPieces]

theorem lines_append {line : List Char} (h : '\n' ∉ line) (rest : List Char) :
    lines (line ++ '\n' :: rest) = dropReturn line :: lines rest := by
  obtain ⟨next, pieces, hrest⟩ := List.exists_cons_of_ne_nil (cutEach_ne_nil '\n' rest)
  rw [lines, lines, cutEach_append h, hrest, linesOfPieces]

/-- A fact of all texts, from texts without a line feed and from one line in front of another
text. -/
theorem line_induction {motive : List Char → Prop} (last : ∀ cs, '\n' ∉ cs → motive cs)
    (line : ∀ line rest, '\n' ∉ line → motive rest → motive (line ++ '\n' :: rest))
    (cs : List Char) : motive cs := by
  induction hlength : cs.length using Nat.strongRecOn generalizing cs with
  | ind length ih =>
      by_cases h : '\n' ∈ cs
      · obtain ⟨first, rest, rfl, hfirst⟩ := List.eq_append_cons_of_mem h
        have hshorter : rest.length < length := by
          rw [List.length_append, List.length_cons] at hlength
          omega
        exact line first rest hfirst (ih _ hshorter rest rfl)
      · exact last cs h

/-! ## Carriage returns -/

theorem dropReturn_nil : dropReturn [] = [] := rfl

theorem dropReturn_concat (cs : List Char) (c : Char) :
    dropReturn (cs ++ [c]) = if c = '\r' then cs else cs ++ [c] := by
  simp [dropReturn]

theorem dropReturn_cons_cons (c d : Char) (cs : List Char) :
    dropReturn (c :: d :: cs) = c :: dropReturn (d :: cs) := by
  unfold dropReturn
  rw [List.getLast?_cons_cons, List.dropLast_cons_cons, apply_ite (List.cons c)]

theorem dropReturn_subset (line : List Char) : dropReturn line ⊆ line := by
  unfold dropReturn
  split
  · exact List.dropLast_subset line
  · exact List.Subset.refl line

/-! ## Blanks -/

theorem hasInk_eq_false_iff {cs : List Char} : hasInk cs = false ↔ ∀ c ∈ cs, isBlank c := by
  simp [hasInk]

theorem hasInk_append (cs ds : List Char) : hasInk (cs ++ ds) = (hasInk cs || hasInk ds) :=
  List.any_append

theorem dropBlanks_eq_nil_iff {cs : List Char} : dropBlanks cs = [] ↔ ∀ c ∈ cs, isBlank c :=
  List.dropWhile_eq_nil_iff

theorem dropBlanks_append_of_blank {blanks : List Char} (h : ∀ c ∈ blanks, isBlank c)
    (cs : List Char) : dropBlanks (blanks ++ cs) = dropBlanks cs :=
  List.dropWhile_append_of_pos h

theorem dropBlanks_append_of_hasInk {cs : List Char} (h : hasInk cs) (ds : List Char) :
    dropBlanks (cs ++ ds) = dropBlanks cs ++ ds := by
  have hne : dropBlanks cs ≠ [] := by
    intro hnil
    have hblank := hasInk_eq_false_iff.mpr (dropBlanks_eq_nil_iff.mp hnil)
    rw [h] at hblank
    cases hblank
  unfold dropBlanks at hne ⊢
  rw [List.dropWhile_append, if_neg (by simpa using hne)]

theorem dropBlanks_lineFeed (cs : List Char) : dropBlanks ('\n' :: cs) = dropBlanks cs :=
  List.dropWhile_cons_of_pos (by decide)

theorem dropBlanks_cases (cs : List Char) :
    dropBlanks cs = [] ∨ ∃ c rest, dropBlanks cs = c :: rest ∧ isBlank c = false := by
  unfold dropBlanks
  have hhead := List.head?_dropWhile_not isBlank cs
  cases hdrop : cs.dropWhile isBlank with
  | nil => exact Or.inl rfl
  | cons c rest =>
      rw [hdrop] at hhead
      exact Or.inr ⟨c, rest, rfl, hhead⟩

theorem hasInk_dropReturn (line : List Char) : hasInk (dropReturn line) = hasInk line := by
  rcases List.eq_nil_or_concat line with rfl | ⟨cs, c, rfl⟩
  · rfl
  · rw [List.concat_eq_append, dropReturn_concat]
    split
    · rename_i hc
      have hreturn : hasInk ['\r'] = false := by decide
      rw [hc, hasInk_append, hreturn, Bool.or_false]
    · rfl

theorem dropBlanks_dropReturn (line : List Char) :
    dropBlanks (dropReturn line) = dropReturn (dropBlanks line) := by
  rcases List.eq_nil_or_concat line with rfl | ⟨cs, c, rfl⟩
  · rfl
  · rw [List.concat_eq_append]
    cases hink : hasInk cs with
    | true =>
        rw [dropBlanks_append_of_hasInk hink, dropReturn_concat, dropReturn_concat]
        split
        · rfl
        · rw [dropBlanks_append_of_hasInk hink]
    | false =>
        -- At most the last character is left, and a carriage return is not.
        have hblank := hasInk_eq_false_iff.mp hink
        rw [dropBlanks_append_of_blank hblank, dropReturn_concat]
        split
        · rename_i hc
          rw [hc, dropBlanks_eq_nil_iff.mpr hblank]
          decide
        · rename_i hc
          rw [dropBlanks_append_of_blank hblank]
          have hsingle : dropReturn [c] = [c] := by simpa [hc] using dropReturn_concat [] c
          cases hc' : isBlank c <;> simp [dropBlanks, List.dropWhile, hc', hsingle, dropReturn_nil]

/-! ## The first line -/

theorem firstLine_cons {c : Char} {cs : List Char} (hc : c ≠ '\n')
    (hcs : c = '\r' → cs.head? ≠ some '\n') : firstLine (c :: cs) = c :: firstLine cs := by
  rw [firstLine]
  · exact hc
  · rintro rest hreturn rfl
    exact hcs hreturn rfl

theorem firstLine_of_not_mem {cs : List Char} (h : '\n' ∉ cs) : firstLine cs = cs := by
  induction cs with
  | nil => rfl
  | cons c cs ih =>
      have hc : c ≠ '\n' := Ne.symm (List.ne_of_not_mem_cons h)
      have hcs : '\n' ∉ cs := List.not_mem_of_not_mem_cons h
      rw [firstLine_cons hc fun _ hhead => hcs (List.mem_of_head? hhead), ih hcs]

/-- The first line feed ends the first line, together with a carriage return just before it. -/
theorem firstLine_append {line : List Char} (h : '\n' ∉ line) (rest : List Char) :
    firstLine (line ++ '\n' :: rest) = dropReturn line := by
  induction line with
  | nil => rfl
  | cons c line ih =>
      have hc : c ≠ '\n' := Ne.symm (List.ne_of_not_mem_cons h)
      have hline : '\n' ∉ line := List.not_mem_of_not_mem_cons h
      cases line with
      | nil =>
          have hsingle : dropReturn [c] = if c = '\r' then [] else [c] := dropReturn_concat [] c
          rw [hsingle]
          by_cases hreturn : c = '\r'
          · rw [hreturn]
            rfl
          · rw [if_neg hreturn, List.singleton_append, firstLine_cons hc fun h => absurd h hreturn]
            rfl
      | cons d line =>
          have hd : d ≠ '\n' := Ne.symm (List.ne_of_not_mem_cons hline)
          rw [List.cons_append, firstLine_cons hc fun _ => by simpa using hd, ih hline,
            dropReturn_cons_cons]

theorem lineFeed_not_mem_firstLine (cs : List Char) : '\n' ∉ firstLine cs := by
  induction cs using line_induction with
  | last cs h => rwa [firstLine_of_not_mem h]
  | line line rest h _ =>
      rw [firstLine_append h]
      exact fun hmem => h (dropReturn_subset line hmem)

theorem firstLine_cons_of_ink {c : Char} (h : isBlank c = false) (cs : List Char) :
    firstLine (c :: cs) = c :: firstLine cs := by
  refine firstLine_cons ?_ ?_
  · rintro rfl
    cases h
  · rintro rfl
    cases h

/-- Blanks go before lines are cut, or after: the first line of a text without its leading blanks is
the first one of its lines that is not blank, without those of that line. -/
theorem firstLine_dropBlanks (cs : List Char) :
    firstLine (dropBlanks cs) = (((lines cs).find? hasInk).map dropBlanks).getD [] := by
  induction cs using line_induction with
  | last cs h =>
      have hdrop : '\n' ∉ dropBlanks cs := fun hmem => h (List.dropWhile_subset _ hmem)
      rw [firstLine_of_not_mem hdrop, lines_of_not_mem h]
      cases hink : hasInk cs with
      | true =>
          have hne : cs ≠ [] := by
            rintro rfl
            cases hink
          simp [hink, hne]
      | false =>
          have hblank := hasInk_eq_false_iff.mp hink
          rw [dropBlanks_eq_nil_iff.mpr hblank]
          split <;> simp [hink]
  | line line rest h ih =>
      rw [lines_append h]
      cases hink : hasInk line with
      | true =>
          have hdrop : '\n' ∉ dropBlanks line := fun hmem => h (List.dropWhile_subset _ hmem)
          have hfirst : hasInk (dropReturn line) = true := by rw [hasInk_dropReturn, hink]
          rw [List.find?_cons_of_pos hfirst, dropBlanks_append_of_hasInk hink,
            firstLine_append hdrop, ← dropBlanks_dropReturn]
          rfl
      | false =>
          have hblank := hasInk_eq_false_iff.mp hink
          have hfirst : ¬ hasInk (dropReturn line) = true := by simp [hasInk_dropReturn, hink]
          rw [List.find?_cons_of_neg hfirst, dropBlanks_append_of_blank hblank,
            dropBlanks_lineFeed, ih]

end CommitHeader.Text
