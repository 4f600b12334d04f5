import CommitHeader.Text.Blank

/-!
# Texts of one line

Joining lines and splitting the text at its line feeds undo each other, as long as no line holds a
line feed of its own.
-/

namespace CommitHeader.Text

/-- Whether a text has no line feed. -/
def OneLine (s : String) : Prop :=
  '\n' ∉ s.toList

instance (s : String) : Decidable (OneLine s) :=
  inferInstanceAs (Decidable ('\n' ∉ s.toList))

/-- The pieces of a text between its line feeds: one more than there are line feeds. -/
def splitLines (s : String) : List String :=
  (s.toList.splitOn '\n').map String.ofList

@[simp] theorem oneLine_append {s t : String} : OneLine (s ++ t) ↔ OneLine s ∧ OneLine t := by
  simp [OneLine]

theorem oneLine_ofList_replicate {c : Char} (h : c ≠ '\n') (n : Nat) :
    OneLine (String.ofList (List.replicate n c)) := by
  simp [OneLine, Ne.symm h]

theorem splitLines_joinLines {lines : List String} (hlines : lines ≠ [])
    (h : ∀ line ∈ lines, OneLine line) : splitLines (joinLines lines) = lines := by
  have hpieces : ∀ piece ∈ lines.map String.toList, '\n' ∉ piece := by
    intro piece hpiece
    obtain ⟨line, hline, rfl⟩ := List.mem_map.mp hpiece
    exact h line hline
  have hjoined : (joinLines lines).toList = ['\n'].intercalate (lines.map String.toList) :=
    String.toList_intercalate
  rw [splitLines, hjoined, List.splitOn_intercalate '\n' hpieces (by simpa using hlines),
    List.map_map]
  have hround : String.ofList ∘ String.toList = id := funext fun _ => String.ofList_toList
  rw [hround, List.map_id]

end CommitHeader.Text
