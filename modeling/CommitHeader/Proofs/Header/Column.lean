import CommitHeader.Header
import CommitHeader.Proofs.Markup.Entity
import CommitHeader.Proofs.Text.Width
import Mathlib.Data.List.Forall2
import Mathlib.Order.Bounds.Basic

/-!
# The column of values

In one pass over a header every lead ends at the same column. Its distance from the left depends on
the widest label that the pass writes and on the alignment alone.

A lead is filled from its own width up to the column. Spaces fill that distance; tabs are as many as
the stops within it, rounded up, which is right because the column is itself a stop.
-/

namespace CommitHeader

namespace Alignment

/-- The character that fills gaps. -/
def padding : Alignment → Char
  | .spaces => ' '
  | .tabs => '\t'

/-- The column at which a lead ends: its width, and with tabs the place where it ends when it is
laid out between stops. -/
def endColumn : Alignment → String → Nat
  | .spaces, lead => Text.width lead
  | .tabs, lead => Text.laidOut tabSize lead

/-- Whether values start at a column if the widest label takes `longest` columns. With spaces there
is room for a colon and a space; with tabs it is the first stop that leaves room for a colon and
more. -/
def IsColumn : Alignment → Nat → Nat → Prop
  | .spaces, longest, column => column = longest + 2
  | .tabs, longest, column => IsLeast {n | 4 ∣ n ∧ longest + 1 < n} column

/-- A lead with a label is the label as written, a colon and at least one character of padding; a
lead without one is padding. -/
inductive IsLead (alignment : Alignment) (written : String → String) : Option String → String → Prop
  | labelled (label : String) (n : Nat) :
      IsLead alignment written (some label)
        (written label ++ ":" ++ String.ofList (List.replicate (n + 1) alignment.padding))
  | blank (n : Nat) :
      IsLead alignment written none (String.ofList (List.replicate n alignment.padding))

theorem isColumn_column (alignment : Alignment) (longest : Nat) :
    alignment.IsColumn longest (alignment.column longest) := by
  cases alignment with
  | spaces => rfl
  | tabs =>
      refine ⟨⟨⟨(longest + 1) / 4 + 1, Nat.mul_comm _ _⟩, ?_⟩, ?_⟩
      · simp only [column, tabSize]
        omega
      · rintro n ⟨⟨k, rfl⟩, hn⟩
        simp only [column, tabSize]
        omega

theorem add_one_lt_column (alignment : Alignment) (longest : Nat) :
    longest + 1 < alignment.column longest := by
  cases alignment <;> simp only [column, tabSize] <;> omega

/-! ## Padding -/

theorem exists_filler_eq_replicate (alignment : Alignment) {width target : Nat}
    (h : width < target) :
    ∃ n, alignment.filler width target = List.replicate (n + 1) alignment.padding := by
  cases alignment with
  | spaces => exact ⟨target - width - 1, by rw [filler, padding]; congr 1; omega⟩
  | tabs =>
      refine ⟨(target - width + (tabSize - 1)) / tabSize - 1, ?_⟩
      rw [filler, padding]
      congr 1
      simp only [tabSize]
      omega

theorem width_pad_spaces {text : String} {target : Nat} (h : Text.width text ≤ target) :
    Text.width (spaces.pad text target) = target := by
  have hpadded := Text.widthOf_append_replicate Text.isPlain_space text.toList
    (target - Text.width text)
  unfold pad filler
  rw [Text.width, String.toList_append, String.toList_ofList, hpadded]
  change Text.width text + _ = _
  omega

theorem laidOut_pad_tabs {text : String} {target : Nat} (htext : '\t' ∉ text.toList)
    (hstop : tabSize ∣ target) (h : Text.width text < target) :
    Text.laidOut tabSize (tabs.pad text target) = target := by
  obtain ⟨n, hn⟩ := exists_filler_eq_replicate tabs h
  have hcount : (target - Text.width text + (tabSize - 1)) / tabSize = n + 1 := by
    simpa [filler, padding] using congrArg List.length hn
  obtain ⟨stops, rfl⟩ := hstop
  rw [pad, hn, padding, Text.laidOut_append_tabs (by decide) htext, ← hcount]
  simp only [tabSize] at h ⊢
  omega

/-- Padding takes a text to the column, wherever the text ends before it. -/
theorem endColumn_pad (alignment : Alignment) {text : String} {longest : Nat}
    (hwidth : Text.width text ≤ longest + 1)
    (htabs : alignment = .tabs → '\t' ∉ text.toList) :
    alignment.endColumn (alignment.pad text (alignment.column longest)) =
      alignment.column longest := by
  have hlt := add_one_lt_column alignment longest
  cases alignment with
  | spaces => exact width_pad_spaces (by omega)
  | tabs => exact laidOut_pad_tabs (htabs rfl) (Nat.dvd_mul_left _ _) (by omega)

end Alignment

/-! ## Leads -/

namespace Alignment

/-- What a pass puts in front of the value on a line with a label, or on a line without one. -/
def lead (alignment : Alignment) (written : String → String) (column : Nat) : Option String → String
  | some label => alignment.pad (written label ++ ":") column
  | none => alignment.pad "" column

theorem label_with_colon (alignment : Alignment) (text : String) (column : Nat) :
    alignment.label text column true =
      alignment.lead Markup.Entity.encode column (some text) := rfl

theorem label_blank (alignment : Alignment) (column : Nat) :
    alignment.label "" column false = alignment.lead Markup.Entity.encode column none := by
  have hempty : Markup.Entity.encode "" = "" := rfl
  simp [label, lead, hempty]

theorem control_not_mem_encode {c : Char} (hcontrol : Text.IsControl c) {text : String}
    (h : c ∉ text.toList) : c ∉ (Markup.Entity.encode text).toList := by
  have hletters : Markup.Entity.letters.all (fun d => ¬ Text.IsControl d) = true := by decide
  simp only [List.all_eq_true, decide_eq_true_eq] at hletters
  exact Markup.Entity.not_mem_encode (fun hmem => hletters c hmem hcontrol) (Or.inr h)

theorem tab_not_mem_encode {text : String} (h : ∀ c ∈ text.toList, ¬ Text.IsControl c) :
    '\t' ∉ (Markup.Entity.encode text).toList := by
  have htab : Text.IsControl '\t' := by decide
  exact control_not_mem_encode htab fun hmem => h _ hmem htab

theorem isLead_lead (alignment : Alignment) (written : String → String) {longest : Nat}
    {head : Option String} (h : ∀ label ∈ head, Text.width (written label) ≤ longest) :
    alignment.IsLead written head (alignment.lead written (alignment.column longest) head) := by
  have hlt := add_one_lt_column alignment longest
  cases head with
  | none =>
      have hfits : Text.width "" < alignment.column longest := by
        rw [Text.width_empty]
        omega
      obtain ⟨n, hn⟩ := exists_filler_eq_replicate alignment hfits
      rw [lead, pad, hn, String.empty_append]
      exact .blank (n + 1)
  | some label =>
      have hwidth := Text.width_append_colon (written label)
      have hlabel := h label rfl
      have hfits : Text.width (written label ++ ":") < alignment.column longest := by omega
      obtain ⟨n, hn⟩ := exists_filler_eq_replicate alignment hfits
      rw [lead, pad, hn]
      exact .labelled label n

theorem endColumn_lead (alignment : Alignment) (written : String → String) {longest : Nat}
    {head : Option String} (h : ∀ label ∈ head, Text.width (written label) ≤ longest)
    (htabs : alignment = .tabs → ∀ label ∈ head, '\t' ∉ (written label).toList) :
    alignment.endColumn (alignment.lead written (alignment.column longest) head) =
      alignment.column longest := by
  cases head with
  | none =>
      apply endColumn_pad
      · rw [Text.width_empty]
        omega
      · simp
  | some label =>
      apply endColumn_pad
      · rw [Text.width_append_colon]
        have hlabel := h label rfl
        omega
      · intro halignment
        simpa using htabs halignment label rfl

end Alignment

namespace Labels

/-- The labels of the lines of a block: the first line bears the label of the block. -/
def blockHeads (label : String) : Nat → List (Option String)
  | 0 => []
  | count + 1 => some label :: List.replicate count none

/-- The labels of the lines of a header with so many children and parents, from the first line to
the last. -/
def heads (labels : Labels) (children parents : Nat) : List (Option String) :=
  labels.fixed.map some ++ blockHeads labels.children children ++ blockHeads labels.parents parents

@[simp] theorem length_blockHeads (label : String) (count : Nat) :
    (blockHeads label count).length = count := by
  cases count <;> simp [blockHeads]

theorem some_mem_blockHeads {text label : String} {count : Nat} :
    some text ∈ blockHeads label count ↔ count ≠ 0 ∧ text = label := by
  cases count <;> simp [blockHeads]

/-- The labels that count for the column are those that some line bears. -/
theorem some_mem_heads {labels : Labels} {commit : Commit} {label : String} :
    some label ∈ labels.heads commit.children.length commit.parents.length ↔
      label ∈ labels.present commit := by
  have hchildren : commit.children.length ≠ 0 ↔ ¬ commit.children.isEmpty := by simp
  have hparents : commit.parents.length ≠ 0 ↔ ¬ commit.parents.isEmpty := by simp
  simp only [heads, present, List.mem_append, some_mem_blockHeads, hchildren, hparents]
  split_ifs <;> simp_all

theorem isGreatest_longest (written : String → String) {labels : List String} (h : labels ≠ []) :
    IsGreatest {n | ∃ label ∈ labels, Text.width (written label) = n}
      (longest (labels.map written)) := by
  unfold longest
  induction labels with
  | nil => exact absurd rfl h
  | cons label labels ih =>
      rw [List.map_cons, List.map_cons, List.foldr_cons]
      by_cases hlabels : labels = []
      · subst hlabels
        simp [IsGreatest, upperBounds]
      · obtain ⟨⟨widest, hwidest, hwidth⟩, hbound⟩ := ih hlabels
        refine ⟨?_, ?_⟩
        · rcases Nat.le_total (Text.width (written label)) (Text.width (written widest)) with
            hle | hle
          · exact ⟨widest, List.mem_cons_of_mem _ hwidest, by rw [← hwidth]; omega⟩
          · exact ⟨label, List.mem_cons_self, by rw [← hwidth]; omega⟩
        · rintro n ⟨other, hother, rfl⟩
          rcases List.mem_cons.mp hother with rfl | hother
          · exact Nat.le_max_left _ _
          · exact (hbound ⟨other, hother, rfl⟩).trans (Nat.le_max_right _ _)

end Labels

end CommitHeader
