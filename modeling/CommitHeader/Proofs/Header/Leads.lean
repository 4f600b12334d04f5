import CommitHeader.Proofs.Header.Column
import CommitHeader.Proofs.ObjectId
import CommitHeader.Revision.Table
import Mathlib

/-!
# The leads of a header

Both passes over a header write their lines from one list of labels, in which a line that continues
a block has none. The main result is that every lead of a pass ends at the column that belongs to
the widest label of that pass.
-/

namespace CommitHeader

namespace HeaderStyle

variable {σ : Type}

/-! ## Lines -/

theorem map_lead_relatedLines (style : HeaderStyle) (links : Bool) (column : Nat) (label : String)
    (relatives : List Relative) :
    (style.relatedLines links column label relatives).map HeaderLine.lead =
      (Labels.blockHeads label relatives.length).map
        (style.alignment.lead Markup.Entity.encode column) := by
  cases relatives with
  | nil => rfl
  | cons first others =>
      simp only [relatedLines, List.map_cons, List.map_map, List.length_cons, Labels.blockHeads,
        List.map_replicate, ← Alignment.label_with_colon, ← Alignment.label_blank]
      exact congrArg _ List.map_const'

theorem map_lead_fixedLines {style : HeaderStyle} {now : Calendar.Instant} {commit : Commit}
    {lead person : String → String} {lines : List HeaderLine}
    (h : style.fixedLines? now commit lead person = some lines) :
    lines.map HeaderLine.lead = style.labels.fixed.map lead := by
  obtain ⟨authorDate, -, h⟩ := Option.bind_eq_some_iff.mp h
  obtain ⟨commitDate, -, h⟩ := Option.bind_eq_some_iff.mp h
  rw [← Option.some.inj h]
  rfl

/-- Whether both dates of a commit have a text. -/
def IsDatable (style : HeaderStyle) (now : Calendar.Instant) (commit : Commit) : Prop :=
  (style.dates.text? now commit.authorDate).isSome ∧
    (style.dates.text? now commit.commitDate).isSome

/-- The fixed lines are missing only for want of a date. -/
theorem exists_fixedLines_iff (style : HeaderStyle) (now : Calendar.Instant) (commit : Commit)
    (lead person : String → String) :
    (∃ lines, style.fixedLines? now commit lead person = some lines) ↔
      style.IsDatable now commit := by
  unfold IsDatable fixedLines?
  cases style.dates.text? now commit.authorDate <;>
    cases style.dates.text? now commit.commitDate <;> simp

/-! ## Related commits -/

theorem map_id_of_resolve {lookup : Lookup σ} {ids : List ObjectId} {state : σ}
    {relatives : List Relative} (h : (resolve lookup ids state).1 = .ok relatives) :
    relatives.map Relative.id = ids := by
  induction ids generalizing state relatives with
  | nil =>
      cases h
      rfl
  | cons id ids ih =>
      unfold resolve at h
      split at h
      · cases h
      · rename_i revision next _
        split at h
        · cases h
        · rename_i others last hothers
          cases h
          rw [List.map_cons, ih (by rw [hothers])]

theorem map_lead_relatedBlocks (style : HeaderStyle) {commit : Commit} (links : Bool)
    {relatives : List Relative} (h : relatives.map Relative.id = commit.children ++ commit.parents) :
    (style.relatedBlocks commit links relatives).map HeaderLine.lead =
      (Labels.blockHeads style.labels.children commit.children.length ++
        Labels.blockHeads style.labels.parents commit.parents.length).map
        (style.alignment.lead Markup.Entity.encode (style.markupColumn commit)) := by
  have hlength : relatives.length = commit.children.length + commit.parents.length := by
    simpa using congrArg List.length h
  unfold relatedBlocks
  simp only [List.splitAt_eq, List.map_append, map_lead_relatedLines, List.length_take,
    List.length_drop]
  congr 4 <;> omega

theorem length_relatedBlocks (style : HeaderStyle) {commit : Commit} (links : Bool)
    {relatives : List Relative} (h : relatives.map Relative.id = commit.children ++ commit.parents) :
    (style.relatedBlocks commit links relatives).length =
      commit.children.length + commit.parents.length := by
  simpa using congrArg List.length (map_lead_relatedBlocks style links h)

/-- Once the related commits are known, only a date can stand in the way of the lines. -/
theorem fst_markupLines_of_resolve (style : HeaderStyle) (now : Calendar.Instant) (commit : Commit)
    (links : Bool) {lookup : Lookup σ} {state : σ} {relatives : List Relative}
    (h : (resolve lookup (commit.children ++ commit.parents) state).1 = .ok relatives) :
    (style.markupLines now commit links lookup state).1 =
      match style.fixedLines? now commit
        (fun label => style.alignment.label label (style.markupColumn commit) true)
        Markup.signatureMarkup with
      | none => .error .undatable
      | some fixed => .ok (fixed ++ style.relatedBlocks commit links relatives) := by
  cases hrun : resolve lookup (commit.children ++ commit.parents) state with
  | mk outcome next =>
      rw [hrun] at h
      cases h
      unfold markupLines
      rw [hrun]
      dsimp only
      cases style.fixedLines? now commit
        (fun label => style.alignment.label label (style.markupColumn commit) true)
        Markup.signatureMarkup <;> rfl

/-! ## One column -/

/-- What the leads of a pass have in common. Their labels decide the column, each has the shape of a
lead, and each ends at the column; laid out between tab stops it does so if no label holds a control
character, which might move it elsewhere. -/
structure Aligned (alignment : Alignment) (written : String → String) (heads : List (Option String))
    (leads : List String) (longest column : Nat) : Prop where
  longest_isGreatest :
    IsGreatest {n | ∃ label, some label ∈ heads ∧ Text.width (written label) = n} longest
  isColumn : alignment.IsColumn longest column
  isLead : List.Forall₂ (alignment.IsLead written) heads leads
  endColumn_eq :
    (alignment = .tabs → ∀ label, some label ∈ heads → ∀ c ∈ label.toList, ¬ Text.IsControl c) →
      ∀ lead ∈ leads, alignment.endColumn lead = column

theorem aligned_map_lead {alignment : Alignment} {written : String → String}
    {heads : List (Option String)} {longest : Nat}
    (hlongest :
      IsGreatest {n | ∃ label, some label ∈ heads ∧ Text.width (written label) = n} longest)
    (hwritten : ∀ label, (∀ c ∈ label.toList, ¬ Text.IsControl c) →
      '\t' ∉ (written label).toList) :
    Aligned alignment written heads
      (heads.map (alignment.lead written (alignment.column longest))) longest
      (alignment.column longest) := by
  have hwidth : ∀ head ∈ heads, ∀ label ∈ head, Text.width (written label) ≤ longest := by
    rintro head hhead label rfl
    exact hlongest.2 ⟨label, hhead, rfl⟩
  refine ⟨hlongest, alignment.isColumn_column longest, ?_, ?_⟩
  · rw [List.forall₂_map_right_iff, List.forall₂_same]
    exact fun head hhead => alignment.isLead_lead written (hwidth head hhead)
  · intro hcontrol lead hlead
    obtain ⟨head, hhead, rfl⟩ := List.mem_map.mp hlead
    apply alignment.endColumn_lead written (hwidth head hhead)
    rintro halignment label rfl
    exact hwritten label (hcontrol halignment label hhead)

/-- The leads of the markup form, which writes labels encoded. -/
theorem aligned_markup (style : HeaderStyle) (commit : Commit) :
    Aligned style.alignment Markup.Entity.encode
      (style.labels.heads commit.children.length commit.parents.length)
      ((style.labels.heads commit.children.length commit.parents.length).map
        (style.alignment.lead Markup.Entity.encode (style.markupColumn commit)))
      (Labels.longest ((style.labels.present commit).map Markup.Entity.encode))
      (style.markupColumn commit) := by
  have hnonempty : style.labels.present commit ≠ [] := by simp [Labels.present, Labels.fixed]
  apply aligned_map_lead
  · simpa only [Labels.some_mem_heads] using
      Labels.isGreatest_longest Markup.Entity.encode hnonempty
  · exact fun _ => Alignment.tab_not_mem_encode

theorem aligned_markupLines {style : HeaderStyle} {now : Calendar.Instant} {commit : Commit}
    (links : Bool) {fixed : List HeaderLine} {relatives : List Relative}
    (hfixed : style.fixedLines? now commit
      (fun label => style.alignment.label label (style.markupColumn commit) true)
      Markup.signatureMarkup = some fixed)
    (hrelatives : relatives.map Relative.id = commit.children ++ commit.parents) :
    Aligned style.alignment Markup.Entity.encode
      (style.labels.heads commit.children.length commit.parents.length)
      ((fixed ++ style.relatedBlocks commit links relatives).map HeaderLine.lead)
      (Labels.longest ((style.labels.present commit).map Markup.Entity.encode))
      (style.markupColumn commit) := by
  have hlead : (fixed ++ style.relatedBlocks commit links relatives).map HeaderLine.lead =
      (style.labels.heads commit.children.length commit.parents.length).map
        (style.alignment.lead Markup.Entity.encode (style.markupColumn commit)) := by
    rw [List.map_append, map_lead_fixedLines hfixed, map_lead_relatedBlocks style links hrelatives]
    simp only [Labels.heads, List.map_append, List.map_map, List.append_assoc]
    rfl
  rw [hlead]
  exact style.aligned_markup commit

theorem aligned_plainLines {style : HeaderStyle} {now : Calendar.Instant} {commit : Commit}
    {lines : List HeaderLine} (h : style.plainLines? now commit = some lines) :
    Aligned style.alignment id (style.labels.fixed.map some) (lines.map HeaderLine.lead)
      (Labels.longest style.labels.fixed) style.plainColumn := by
  have hlead : lines.map HeaderLine.lead =
      (style.labels.fixed.map some).map (style.alignment.lead id style.plainColumn) := by
    rw [plainLines?] at h
    rw [map_lead_fixedLines h, List.map_map]
    rfl
  have hnonempty : style.labels.fixed ≠ [] := by simp [Labels.fixed]
  have hgreatest := Labels.isGreatest_longest id hnonempty
  rw [List.map_id] at hgreatest
  rw [hlead]
  apply aligned_map_lead
  · simpa using hgreatest
  · intro label hlabel htab
    exact hlabel _ htab (Or.inl (by decide))

/-! ## Texts -/

/-- A text is its lines, each a lead and a value, with a line feed between them. -/
theorem textOf_eq (lines : List HeaderLine) :
    textOf lines = "\n".intercalate (lines.map fun line => line.lead ++ line.value) := rfl

theorem render_of_markupLines {style : HeaderStyle} {now : Calendar.Instant} {commit : Commit}
    {links : Bool} {lookup : Lookup σ} {state : σ} {lines : List HeaderLine}
    (h : (style.markupLines now commit links lookup state).1 = .ok lines) :
    (style.render now commit links lookup state).1 =
      .ok ("\n".intercalate (lines.map fun line => line.lead ++ line.value)) := by
  have hrender : (style.render now commit links lookup state).1 =
      (style.markupLines now commit links lookup state).1.map textOf := rfl
  rw [hrender, h, ← textOf_eq]
  rfl

theorem renderPlain_of_plainLines {style : HeaderStyle} {now : Calendar.Instant} {commit : Commit}
    {lines : List HeaderLine} (h : style.plainLines? now commit = some lines) :
    style.renderPlain now commit =
      .ok ("\n".intercalate (lines.map fun line => line.lead ++ line.value)) := by
  rw [renderPlain, h, ← textOf_eq]

/-- Without a text for a date nothing is asked. -/
theorem render_of_not_isDatable {style : HeaderStyle} {now : Calendar.Instant} {commit : Commit}
    (h : ¬ style.IsDatable now commit) (links : Bool) (lookup : Lookup σ) (state : σ) :
    style.render now commit links lookup state = (.error .undatable, state) := by
  have hnone : style.fixedLines? now commit
      (fun label => style.alignment.label label (style.markupColumn commit) true)
      Markup.signatureMarkup = none :=
    Option.eq_none_iff_forall_ne_some.mpr fun lines hlines =>
      h ((exists_fixedLines_iff style now commit _ _).mp ⟨lines, hlines⟩)
  unfold render markupLines
  dsimp only
  rw [hnone]
  rfl

theorem exists_plainLines_iff (style : HeaderStyle) (now : Calendar.Instant) (commit : Commit) :
    (∃ lines, style.plainLines? now commit = some lines) ↔ style.IsDatable now commit :=
  exists_fixedLines_iff style now commit
    (fun label => style.alignment.plainLabel label style.plainColumn) id

theorem renderPlain_of_not_isDatable {style : HeaderStyle} {now : Calendar.Instant}
    {commit : Commit} (h : ¬ style.IsDatable now commit) :
    style.renderPlain now commit = .error .undatable := by
  have hnone : style.plainLines? now commit = none :=
    Option.eq_none_iff_forall_ne_some.mpr fun lines hlines =>
      h ((exists_plainLines_iff style now commit).mp ⟨lines, hlines⟩)
  rw [renderPlain, hnone]

/-- Whatever the labels are, in each pass over a header the text is made of lines, each a lead and a
value, and all leads end at the column that the widest label of that pass asks for. A header has no
text only if one of its dates has none. -/
theorem leads_end_at_column (style : HeaderStyle) (now : Calendar.Instant) (commit : Commit)
    (links : Bool) (lookup : Lookup σ) (state : σ) (relatives : List Relative)
    (hresolve : (resolve lookup (commit.children ++ commit.parents) state).1 = .ok relatives) :
    (¬ style.IsDatable now commit ∧
      (style.render now commit links lookup state).1 = .error .undatable ∧
      style.renderPlain now commit = .error .undatable) ∨
    (∃ (lines : List HeaderLine) (longest column : Nat),
      (style.markupLines now commit links lookup state).1 = .ok lines ∧
      (style.render now commit links lookup state).1 =
        .ok ("\n".intercalate (lines.map fun line => line.lead ++ line.value)) ∧
      Aligned style.alignment Markup.Entity.encode
        (style.labels.heads commit.children.length commit.parents.length)
        (lines.map HeaderLine.lead) longest column) ∧
    (∃ (lines : List HeaderLine) (longest column : Nat),
      style.plainLines? now commit = some lines ∧
      style.renderPlain now commit =
        .ok ("\n".intercalate (lines.map fun line => line.lead ++ line.value)) ∧
      Aligned style.alignment id (style.labels.fixed.map some) (lines.map HeaderLine.lead) longest
        column) := by
  by_cases hdates : style.IsDatable now commit
  · right
    obtain ⟨fixed, hfixed⟩ := (exists_fixedLines_iff style now commit
      (fun label => style.alignment.label label (style.markupColumn commit) true)
      Markup.signatureMarkup).mpr hdates
    obtain ⟨lines, hplain⟩ := (exists_plainLines_iff style now commit).mpr hdates
    have hlines := fst_markupLines_of_resolve style now commit links hresolve
    rw [hfixed] at hlines
    exact ⟨⟨_, _, _, hlines, render_of_markupLines hlines,
        aligned_markupLines links hfixed (map_id_of_resolve hresolve)⟩,
      ⟨_, _, _, hplain, renderPlain_of_plainLines hplain, aligned_plainLines hplain⟩⟩
  · left
    exact ⟨hdates, by rw [render_of_not_isDatable hdates], renderPlain_of_not_isDatable hdates⟩

/-- A commit that has the same child twice and no parent. -/
def sampleCommit : Commit where
  id := .repeated 1
  tree := .repeated 2
  parents := []
  children := [.repeated 3, .repeated 3]
  author := "A <a@b.c>"
  authorDate := ⟨⟨0, 0⟩, 0⟩
  committer := "B"
  commitDate := ⟨⟨86400, 0⟩, 3600⟩
  body := ""

/-- What is known of the child of the sample. -/
def sampleTable : RevisionTable :=
  RevisionTable.put [] ⟨.repeated 3, "Child", none⟩

theorem leads_end_at_column_sample :
    (resolve RevisionTable.lookup (sampleCommit.children ++ sampleCommit.parents) sampleTable).1 =
        .ok (sampleCommit.children.map fun id => ⟨id, "Child"⟩) ∧
      ∃ (lines : List HeaderLine) (longest column : Nat),
        (({} : HeaderStyle).render ⟨0, 0⟩ sampleCommit true RevisionTable.lookup sampleTable).1 =
          .ok ("\n".intercalate (lines.map fun line => line.lead ++ line.value)) ∧
        Aligned .tabs Markup.Entity.encode (({} : Labels).heads 2 0) (lines.map HeaderLine.lead)
          longest column := by
  have hresolve : (resolve RevisionTable.lookup (sampleCommit.children ++ sampleCommit.parents)
      sampleTable).1 = .ok (sampleCommit.children.map fun id => ⟨id, "Child"⟩) := rfl
  refine ⟨hresolve, ?_⟩
  rcases leads_end_at_column {} ⟨0, 0⟩ sampleCommit true RevisionTable.lookup sampleTable _
    hresolve with ⟨hdates, -⟩ | ⟨⟨lines, longest, column, -, hrender, haligned⟩, -⟩
  · have hdatable : ({} : HeaderStyle).IsDatable ⟨0, 0⟩ sampleCommit := by
      unfold IsDatable
      decide +kernel
    exact absurd hdatable hdates
  · exact ⟨lines, longest, column, hrender, haligned⟩

end HeaderStyle

end CommitHeader
