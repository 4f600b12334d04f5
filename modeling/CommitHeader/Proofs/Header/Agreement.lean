import CommitHeader.Proofs.Header.Questions
import CommitHeader.Proofs.Markup.Entity
import CommitHeader.Proofs.Text.Cut

/-!
# The two forms of a header

The markup form counts encoded labels, those of the related commits among them, and the plain form
counts the five fixed labels as they are. If no label is changed by encoding and none of the other
two is wider than the five, both forms have one column. Their five lines then begin alike, and they
say the same once a person's markup is read as its reader sees it.
-/

namespace CommitHeader

namespace Markup

/-- What is shown of a person's markup: the content of the mail link if the signature has an
address, and all of it otherwise. -/
def shown? (signature markup : String) : Option String :=
  match address? signature with
  | some address =>
      (Text.afterLead? ("<a href='mailto:" ++ address ++ "'>") markup).bind
        (Text.beforeTail? "</a>")
  | none => some markup

theorem shown?_signatureMarkup (signature : String) :
    shown? signature (signatureMarkup signature) = some (Entity.encode signature) := by
  unfold shown? signatureMarkup
  cases address? signature with
  | none => rfl
  | some address =>
      have hmarkup : (mailLink signature address).render =
          "<a href='mailto:" ++ address ++ "'>" ++ (Entity.encode signature ++ "</a>") := by
        rw [← String.append_assoc]
        rfl
      dsimp only
      rw [hmarkup, Text.afterLead?_append, Option.bind_some, Text.beforeTail?_append]

end Markup

namespace HeaderStyle

variable {σ : Type}

/-! ## One column for both forms -/

/-- The labels that a header of this commit bears are written as they are, and those of its blocks
are no wider than the widest of the five that every header has. -/
structure HasPlainLabels (style : HeaderStyle) (commit : Commit) : Prop where
  unmarked : ∀ label ∈ style.labels.present commit, ∀ c ∈ label.toList, c ∉ Markup.Entity.marks
  fits : ∀ label ∈ style.labels.present commit,
    Text.width label ≤ Labels.longest style.labels.fixed

theorem mem_present_of_mem_fixed {labels : Labels} {label : String} (h : label ∈ labels.fixed)
    (commit : Commit) : label ∈ labels.present commit := by
  unfold Labels.present
  exact List.mem_append_left _ (List.mem_append_left _ h)

theorem longest_present {labels : Labels} {commit : Commit}
    (h : ∀ label ∈ labels.present commit, Text.width label ≤ Labels.longest labels.fixed) :
    Labels.longest (labels.present commit) = Labels.longest labels.fixed := by
  have hfixed : labels.fixed ≠ [] := by simp [Labels.fixed]
  have hpresent : labels.present commit ≠ [] := by simp [Labels.present, Labels.fixed]
  have hgreatestFixed := Labels.isGreatest_longest id hfixed
  have hgreatest := Labels.isGreatest_longest id hpresent
  rw [List.map_id] at hgreatestFixed hgreatest
  apply Nat.le_antisymm
  · obtain ⟨widest, hwidest, hwidth⟩ := hgreatest.1
    rw [← hwidth]
    exact h widest hwidest
  · obtain ⟨widest, hwidest, hwidth⟩ := hgreatestFixed.1
    exact hgreatest.2 ⟨widest, mem_present_of_mem_fixed hwidest commit, hwidth⟩

theorem HasPlainLabels.encode_eq {style : HeaderStyle} {commit : Commit}
    (h : style.HasPlainLabels commit) {label : String} (hlabel : label ∈ style.labels.present commit) :
    Markup.Entity.encode label = label :=
  Markup.Entity.encode_of_forall_not_mem (h.unmarked label hlabel)

theorem HasPlainLabels.markupColumn_eq {style : HeaderStyle} {commit : Commit}
    (h : style.HasPlainLabels commit) : style.markupColumn commit = style.plainColumn := by
  have hencoded : (style.labels.present commit).map Markup.Entity.encode =
      style.labels.present commit := by
    calc (style.labels.present commit).map Markup.Entity.encode
        = (style.labels.present commit).map id := List.map_congr_left fun _ => h.encode_eq
      _ = style.labels.present commit := List.map_id _
  rw [markupColumn, plainColumn, hencoded, longest_present h.fits]

theorem HasPlainLabels.label_eq {style : HeaderStyle} {commit : Commit}
    (h : style.HasPlainLabels commit) {label : String} (hlabel : label ∈ style.labels.fixed) :
    style.alignment.label label (style.markupColumn commit) true =
      style.alignment.plainLabel label style.plainColumn := by
  have hencoded := h.encode_eq (mem_present_of_mem_fixed hlabel commit)
  rw [Alignment.label, Alignment.plainLabel, hencoded, h.markupColumn_eq, if_pos rfl]

/-! ## The lines of both forms -/

theorem fixedLines?_of_text? {style : HeaderStyle} {now : Calendar.Instant} {commit : Commit}
    {authorDate commitDate : String}
    (hauthor : style.dates.text? now commit.authorDate = some authorDate)
    (hcommit : style.dates.text? now commit.commitDate = some commitDate)
    (lead person : String → String) :
    style.fixedLines? now commit lead person = some [
      ⟨lead style.labels.author, person commit.author⟩,
      ⟨lead style.labels.authorDate, authorDate⟩,
      ⟨lead style.labels.committer, person commit.committer⟩,
      ⟨lead style.labels.commitDate, commitDate⟩,
      ⟨lead style.labels.commitHash, commit.id.hex⟩] := by
  rw [fixedLines?, hauthor, hcommit]
  rfl

/-- How the values of the five lines of a commit are read in the markup form: those of its people as
they are shown, with the entities decoded, and the others as they stand. -/
def readings (commit : Commit) : List (String → Option String) :=
  let person (signature markup : String) := (Markup.shown? signature markup).map
    Markup.Entity.decode
  [person commit.author, some, person commit.committer, some, some]

/-- The five lines of the plain form, each under its own label, say what the commit says, and those
of the markup form say the same under the same leads. -/
structure SaysAsPlain (style : HeaderStyle) (now : Calendar.Instant) (commit : Commit)
    (markup plain : List HeaderLine) : Prop where
  isLead : List.Forall₂ (style.alignment.IsLead id) (style.labels.fixed.map some)
    (plain.map HeaderLine.lead)
  value : ∃ authorDate commitDate,
    style.dates.text? now commit.authorDate = some authorDate ∧
    style.dates.text? now commit.commitDate = some commitDate ∧
    plain.map HeaderLine.value =
      [commit.author, authorDate, commit.committer, commitDate, commit.id.hex]
  lead_eq : markup.map HeaderLine.lead = plain.map HeaderLine.lead
  value_eq : List.zipWith (fun read line => read line.value) (readings commit) markup =
    plain.map fun line => some line.value
  length_eq : markup.length = 5

theorem HasPlainLabels.saysAsPlain {style : HeaderStyle} {now : Calendar.Instant} {commit : Commit}
    (h : style.HasPlainLabels commit) {markup plain : List HeaderLine}
    (hmarkup : style.fixedLines? now commit
      (fun label => style.alignment.label label (style.markupColumn commit) true)
      Markup.signatureMarkup = some markup)
    (hplain : style.plainLines? now commit = some plain) :
    style.SaysAsPlain now commit markup plain := by
  have hdatable := (exists_fixedLines_iff style now commit _ _).mp ⟨markup, hmarkup⟩
  obtain ⟨authorDate, hauthor⟩ := Option.isSome_iff_exists.mp hdatable.1
  obtain ⟨commitDate, hcommit⟩ := Option.isSome_iff_exists.mp hdatable.2
  have hperson (signature : String) :
      (Markup.shown? signature (Markup.signatureMarkup signature)).map Markup.Entity.decode =
        some signature := by
    rw [Markup.shown?_signatureMarkup, Option.map_some, Markup.Entity.decode_encode]
  have haligned := aligned_plainLines hplain
  have hleads := map_lead_fixedLines hmarkup
  have hplainLeads : plain.map HeaderLine.lead = style.labels.fixed.map fun label =>
      style.alignment.plainLabel label style.plainColumn := map_lead_fixedLines hplain
  rw [fixedLines?_of_text? hauthor hcommit] at hmarkup
  rw [plainLines?, fixedLines?_of_text? hauthor hcommit] at hplain
  refine ⟨haligned.isLead, ⟨authorDate, commitDate, hauthor, hcommit, ?_⟩, ?_, ?_, ?_⟩
  · cases hplain
    rfl
  · rw [hleads, hplainLeads]
    exact List.map_congr_left fun _ => h.label_eq
  · cases hmarkup
    cases hplain
    simp only [readings, List.zipWith, List.map_cons, List.map_nil, hperson, id]
  · cases hmarkup
    rfl

/-- Under labels that both forms write alike, the five lines at the front of the markup form begin
as those of the plain form and say the same. Either both forms have a text or neither has, for want
of a date. -/
theorem fixed_lines_agree (style : HeaderStyle) (now : Calendar.Instant) (commit : Commit)
    (links : Bool) (lookup : Lookup σ) (state : σ) (relatives : List Relative)
    (hresolve : (resolve lookup (commit.children ++ commit.parents) state).1 = .ok relatives)
    (hlabels : style.HasPlainLabels commit) :
    (¬ style.IsDatable now commit ∧
      (style.render now commit links lookup state).1 = .error .undatable ∧
      style.renderPlain now commit = .error .undatable) ∨
    ∃ markup related plain : List HeaderLine,
      (style.render now commit links lookup state).1 =
        .ok ("\n".intercalate ((markup ++ related).map fun line => line.lead ++ line.value)) ∧
      related.length = commit.children.length + commit.parents.length ∧
      style.renderPlain now commit =
        .ok ("\n".intercalate (plain.map fun line => line.lead ++ line.value)) ∧
      style.SaysAsPlain now commit markup plain := by
  by_cases hdatable : style.IsDatable now commit
  · right
    obtain ⟨markup, hmarkup⟩ := (exists_fixedLines_iff style now commit
      (fun label => style.alignment.label label (style.markupColumn commit) true)
      Markup.signatureMarkup).mpr hdatable
    obtain ⟨plain, hplain⟩ := (exists_plainLines_iff style now commit).mpr hdatable
    have hlines : (style.markupLines now commit links lookup state).1 =
        .ok (markup ++ style.relatedBlocks commit links relatives) := by
      rw [fst_markupLines_of_resolve style now commit links hresolve, hmarkup]
    exact ⟨markup, style.relatedBlocks commit links relatives, plain, render_of_markupLines hlines,
      length_relatedBlocks style links (map_id_of_resolve hresolve), renderPlain_of_plainLines hplain,
      hlabels.saysAsPlain hmarkup hplain⟩
  · left
    exact ⟨hdatable, by rw [render_of_not_isDatable hdatable],
      renderPlain_of_not_isDatable hdatable⟩

theorem fixed_lines_agree_sample :
    (resolve RevisionTable.lookup (sampleCommit.children ++ sampleCommit.parents) sampleTable).1 =
        .ok (sampleCommit.children.map fun id => ⟨id, "Child"⟩) ∧
      ({} : HeaderStyle).HasPlainLabels sampleCommit ∧
      ∃ markup related plain : List HeaderLine,
        (({} : HeaderStyle).render ⟨0, 0⟩ sampleCommit true RevisionTable.lookup sampleTable).1 =
          .ok ("\n".intercalate ((markup ++ related).map fun line => line.lead ++ line.value)) ∧
        ({} : HeaderStyle).renderPlain ⟨0, 0⟩ sampleCommit =
          .ok ("\n".intercalate (plain.map fun line => line.lead ++ line.value)) ∧
        ({} : HeaderStyle).SaysAsPlain ⟨0, 0⟩ sampleCommit markup plain := by
  have hresolve : (resolve RevisionTable.lookup (sampleCommit.children ++ sampleCommit.parents)
      sampleTable).1 = .ok (sampleCommit.children.map fun id => ⟨id, "Child"⟩) := rfl
  have hunmarked : (({} : Labels).present sampleCommit).all
      (fun label => label.toList.all fun c => c ∉ Markup.Entity.marks) = true := by
    decide +kernel
  have hlabels : ({} : HeaderStyle).HasPlainLabels sampleCommit :=
    { unmarked := by simpa only [List.all_eq_true, decide_eq_true_eq] using hunmarked
      fits := by decide +kernel }
  refine ⟨hresolve, hlabels, ?_⟩
  rcases fixed_lines_agree {} ⟨0, 0⟩ sampleCommit true RevisionTable.lookup sampleTable _ hresolve
    hlabels with ⟨hdates, -⟩ |
      ⟨markup, related, plain, hrender, -, hrenderPlain, hsays⟩
  · have hdatable : ({} : HeaderStyle).IsDatable ⟨0, 0⟩ sampleCommit := by
      unfold IsDatable
      decide +kernel
    exact absurd hdatable hdates
  · exact ⟨markup, related, plain, hrender, hrenderPlain, hsays⟩

end HeaderStyle

end CommitHeader
