import CommitHeader.Commit
import CommitHeader.Proofs.ObjectId
import CommitHeader.Proofs.Text.Blank
import CommitHeader.Proofs.Text.Lines

/-!
# Subjects

The subject of a commit is the first line of its message that is not blank, from its first character
that is not blank on. So blanks in front of a message do not show in its subject.
-/

namespace CommitHeader.Commit

open Text (isBlank)

theorem toList_subjectOf (body : String) :
    (subjectOf body).toList = Text.firstLine (Text.dropBlanks body.toList) :=
  String.toList_ofList

/-- A subject has no characters, or begins with one that is not blank. -/
theorem subjectOf_cases (body : String) :
    ((∀ c ∈ body.toList, isBlank c) ∧ (subjectOf body).toList = []) ∨
      ∃ c rest, (subjectOf body).toList = c :: rest ∧ isBlank c = false ∧ c ∈ body.toList := by
  rw [toList_subjectOf]
  rcases Text.dropBlanks_cases body.toList with hnil | ⟨c, rest, hcons, hc⟩
  · rw [hnil]
    exact Or.inl ⟨Text.dropBlanks_eq_nil_iff.mp hnil, rfl⟩
  · have hmem : c ∈ Text.dropBlanks body.toList := by
      rw [hcons]
      exact List.mem_cons_self
    rw [hcons, Text.firstLine_cons_of_ink hc]
    exact Or.inr ⟨c, _, rfl, hc, List.dropWhile_subset isBlank hmem⟩

theorem subjectOf_append {blanks : String} (h : ∀ c ∈ blanks.toList, isBlank c) (body : String) :
    subjectOf (blanks ++ body) = subjectOf body := by
  rw [subjectOf, String.toList_append, Text.dropBlanks_append_of_blank h, subjectOf]

theorem subjectOf_eq_empty_iff {body : String} :
    subjectOf body = "" ↔ ∀ c ∈ body.toList, isBlank c := by
  rw [← String.toList_eq_nil_iff]
  rcases subjectOf_cases body with ⟨hblank, hnil⟩ | ⟨c, rest, hcons, hc, hmem⟩
  · exact iff_of_true hnil hblank
  · refine iff_of_false (by simp [hcons]) fun hblank => ?_
    rw [hblank c hmem] at hc
    cases hc

/-- The subject of a commit is the first line of its message with a character other than a blank,
without the blanks at its start. It is empty exactly if the message is all blank; it is a single line
that does not start with a blank; and blanks in front of the message, whole lines of them included,
leave it as it is. -/
theorem subject_is_first_line_with_ink (commit : Commit) :
    commit.subject.toList =
      (((Text.lines commit.body.toList).find? Text.hasInk).map Text.dropBlanks).getD [] ∧
    (commit.subject = "" ↔ ∀ c ∈ commit.body.toList, isBlank c) ∧
    Text.OneLine commit.subject ∧
    (∀ c ∈ commit.subject.toList.head?, isBlank c = false) ∧
    ∀ blanks : String, (∀ c ∈ blanks.toList, isBlank c) →
      { commit with body := blanks ++ commit.body }.subject = commit.subject := by
  refine ⟨?_, subjectOf_eq_empty_iff, ?_, ?_, fun blanks hblanks => subjectOf_append hblanks _⟩
  · rw [← Text.firstLine_dropBlanks]
    exact toList_subjectOf commit.body
  · unfold Text.OneLine subject
    rw [toList_subjectOf]
    exact Text.lineFeed_not_mem_firstLine _
  · intro c hc
    rcases subjectOf_cases commit.body with ⟨-, hnil⟩ | ⟨d, rest, hcons, hd, -⟩
    · unfold subject at hc
      rw [hnil] at hc
      cases hc
    · unfold subject at hc
      rw [hcons] at hc
      cases hc
      exact hd

/-- A commit whose message has an empty line and a line of blanks above its subject. -/
def blankLed : Commit where
  id := .repeated 1
  tree := .repeated 2
  parents := []
  children := []
  author := "A <a@example.com>"
  authorDate := { instant := { seconds := 0 } }
  committer := "A <a@example.com>"
  commitDate := { instant := { seconds := 0 } }
  body := "\r\n\u0085\u2028\n\tSubject\r\r\nBody"

theorem subject_is_first_line_with_ink_sample :
    Text.lines blankLed.body.toList =
        [[], ['\u0085', '\u2028'], "\tSubject\r".toList, "Body".toList] ∧
      blankLed.subject.toList = "Subject\r".toList ∧
      (∀ c ∈ "\u3000\n".toList, isBlank c) ∧
      { blankLed with body := "\u3000\n" ++ blankLed.body }.subject = blankLed.subject := by
  obtain ⟨hsubject, -, -, -, hblanks⟩ := subject_is_first_line_with_ink blankLed
  have hlines : Text.lines blankLed.body.toList =
      [[], ['\u0085', '\u2028'], "\tSubject\r".toList, "Body".toList] := by decide +kernel
  have hblank : ∀ c ∈ "\u3000\n".toList, isBlank c := List.all_iff_forall_prop.mp (by decide +kernel)
  refine ⟨hlines, ?_, hblank, hblanks _ hblank⟩
  rw [hsubject, hlines]
  decide +kernel

end CommitHeader.Commit
