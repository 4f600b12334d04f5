import CommitHeader.Proofs.Header.Questions
import CommitHeader.Proofs.Text.Cut
import CommitHeader.Proofs.Text.Lines

/-!
# Reading a header back

If nothing that goes into a header holds a line feed, the lines of its text are the ones it was made
of: five for the commit itself, then one for each child and one for each parent, in their order.
-/

namespace CommitHeader

variable {σ : Type}

open Text (OneLine)

/-! ## Parts of one line -/

namespace ObjectId

theorem oneLine_hex (id : ObjectId) : OneLine id.hex :=
  id.not_mem_hex (by decide)

theorem oneLine_short (id : ObjectId) : OneLine id.short :=
  id.not_mem_short (by decide)

end ObjectId

namespace Markup

theorem oneLine_encode {text : String} (h : OneLine text) : OneLine (Entity.encode text) :=
  Alignment.control_not_mem_encode (by decide) h

theorem oneLine_render {anchor : Anchor} (htarget : OneLine anchor.target)
    (hcontent : OneLine anchor.content) : OneLine anchor.render := by
  have hopening : OneLine "<a href='" := by decide
  have hmiddle : OneLine "'>" := by decide
  have hclosing : OneLine "</a>" := by decide
  simp only [Anchor.render, Text.oneLine_append]
  exact ⟨⟨⟨⟨hopening, htarget⟩, hmiddle⟩, hcontent⟩, hclosing⟩

/-- An address is part of its signature. -/
theorem mem_of_mem_addressChars? {signature address : List Char}
    (h : addressChars? signature = some address) : ∀ c ∈ address, c ∈ signature := by
  obtain ⟨⟨name, rest⟩, hopening, h⟩ := Option.bind_eq_some_iff.mp h
  obtain ⟨⟨inside, after⟩, hclosing, h⟩ := Option.bind_eq_some_iff.mp h
  have hinside : inside = address := by
    dsimp only at h
    split_ifs at h
    exact Option.some.inj h
  have hsignature := (Text.cutFirst?_eq_some_iff.mp hopening).1
  have hrest := (Text.cutLast?_eq_some_iff.mp hclosing).1
  intro c hc
  rw [hsignature, hrest, hinside]
  simp [hc]

theorem oneLine_signatureMarkup {signature : String} (h : OneLine signature) :
    OneLine (signatureMarkup signature) := by
  have hencoded := oneLine_encode h
  unfold signatureMarkup
  cases haddress : address? signature with
  | none => exact hencoded
  | some address =>
      obtain ⟨cs, hcs, rfl⟩ := Option.map_eq_some_iff.mp haddress
      have hinside : OneLine (String.ofList cs) := by
        rw [OneLine, String.toList_ofList]
        exact fun hfeed => h (mem_of_mem_addressChars? hcs _ hfeed)
      have hscheme : OneLine "mailto:" := by decide
      exact oneLine_render (Text.oneLine_append.mpr ⟨hscheme, hinside⟩) hencoded

end Markup

namespace HeaderStyle

/-! ## Contents -/

/-- The text of a person: the signature, encoded, as a link to its address if it has one. -/
def personText (signature : String) : String :=
  match Markup.address? signature with
  | some address =>
      "<a href='mailto:" ++ address ++ "'>" ++ Markup.Entity.encode signature ++ "</a>"
  | none => Markup.Entity.encode signature

/-- The text of a related id: its short form, as a link to the commit or bare. -/
def idText (style : HeaderStyle) (links : Bool) (id : ObjectId) : String :=
  if links then "<a href='" ++ style.scheme ++ id.hex ++ "'>" ++ id.short ++ "</a>" else id.short

/-- What the lines of a block say: each has an id and the subject found for it, and the first one
has the label as well. -/
def blockContents (style : HeaderStyle) (links : Bool) (label : String) (ids : List ObjectId)
    (revisions : List Revision) : List (Option String × String) :=
  (ids.zip revisions).mapIdx fun i entry =>
    (if i = 0 then some label else none, style.idText links entry.1 ++ " " ++ entry.2.subject)

/-- What the five lines that every header has say. -/
def fixedContents (style : HeaderStyle) (commit : Commit) (authorDate commitDate : String) :
    List (Option String × String) :=
  [(some style.labels.author, personText commit.author),
    (some style.labels.authorDate, authorDate),
    (some style.labels.committer, personText commit.committer),
    (some style.labels.commitDate, commitDate),
    (some style.labels.commitHash, commit.id.hex)]

/-- What the lines of a header say: the label of each, if it has one, and the value. -/
def contents (style : HeaderStyle) (commit : Commit) (links : Bool) (authorDate commitDate : String)
    (revisions : List Revision) : List (Option String × String) :=
  style.fixedContents commit authorDate commitDate ++
  style.blockContents links style.labels.children commit.children
    (revisions.take commit.children.length) ++
  style.blockContents links style.labels.parents commit.parents
    (revisions.drop commit.children.length)

/-- A line of the markup form: the lead of its label, or a blank one, and its value. -/
def lineOf (style : HeaderStyle) (commit : Commit) (content : Option String × String) :
    HeaderLine :=
  ⟨style.alignment.lead Markup.Entity.encode (style.markupColumn commit) content.1, content.2⟩

theorem signatureMarkup_eq (signature : String) :
    Markup.signatureMarkup signature = personText signature := by
  unfold Markup.signatureMarkup personText
  cases Markup.address? signature with
  | none => rfl
  | some address => rfl

theorem idText_eq (style : HeaderStyle) (links : Bool) (id : ObjectId) :
    style.idText links id =
      if links then (Markup.commitLink style.scheme id id.short).render else id.short := by
  simp only [idText, Markup.commitLink, Markup.Anchor.render, String.append_assoc]

theorem relatedValue_eq (style : HeaderStyle) (links : Bool) (id : ObjectId) (revision : Revision) :
    style.relatedValue links ⟨id, revision.subject⟩ =
      style.idText links id ++ " " ++ revision.subject := by
  rw [idText_eq]
  rfl

theorem relatedLines_eq (style : HeaderStyle) (commit : Commit) (links : Bool) (label : String)
    (ids : List ObjectId) (revisions : List Revision) :
    style.relatedLines links (style.markupColumn commit) label
        ((ids.zip revisions).map fun entry => ⟨entry.1, entry.2.subject⟩) =
      (style.blockContents links label ids revisions).map (style.lineOf commit) := by
  unfold blockContents
  cases ids.zip revisions with
  | nil => rfl
  | cons entry entries =>
      rw [List.map_cons, relatedLines, List.mapIdx_cons, List.map_cons, List.map_map]
      refine congrArg₂ List.cons ?_ ?_
      · rw [relatedValue_eq, Alignment.label_with_colon]
        rfl
      · apply List.ext_getElem?
        intro i
        simp [lineOf, relatedValue_eq, Alignment.label_blank, Function.comp_def]

theorem fixedLines?_eq {style : HeaderStyle} {now : Calendar.Instant} {commit : Commit}
    {lines : List HeaderLine}
    (h : style.fixedLines? now commit
      (fun label => style.alignment.label label (style.markupColumn commit) true)
      Markup.signatureMarkup = some lines) :
    ∃ authorDate commitDate, style.dates.text? now commit.authorDate = some authorDate ∧
      style.dates.text? now commit.commitDate = some commitDate ∧
      lines = (style.fixedContents commit authorDate commitDate).map (style.lineOf commit) := by
  obtain ⟨authorDate, hauthor, h⟩ := Option.bind_eq_some_iff.mp h
  obtain ⟨commitDate, hcommit, h⟩ := Option.bind_eq_some_iff.mp h
  exact ⟨authorDate, commitDate, hauthor, hcommit, (Option.some.inj h).symm⟩

theorem relatedBlocks_eq (style : HeaderStyle) (commit : Commit) (links : Bool)
    (revisions : List Revision) :
    style.relatedBlocks commit links (((commit.children ++ commit.parents).zip revisions).map
        fun entry => ⟨entry.1, entry.2.subject⟩) =
      (style.blockContents links style.labels.children commit.children
          (revisions.take commit.children.length) ++
        style.blockContents links style.labels.parents commit.parents
          (revisions.drop commit.children.length)).map (style.lineOf commit) := by
  have hchildren : ((commit.children ++ commit.parents).zip revisions).take commit.children.length =
      commit.children.zip (revisions.take commit.children.length) := by
    rw [List.zip_eq_zipWith, List.take_zipWith, List.take_left]
    rfl
  have hparents : ((commit.children ++ commit.parents).zip revisions).drop commit.children.length =
      commit.parents.zip (revisions.drop commit.children.length) := by
    rw [List.zip_eq_zipWith, List.drop_zipWith, List.drop_left]
    rfl
  rw [relatedBlocks]
  dsimp only
  rw [List.splitAt_eq]
  dsimp only
  rw [← List.map_take, ← List.map_drop, hchildren, hparents, relatedLines_eq, relatedLines_eq,
    List.map_append]

/-- The text of a header is made of what its lines say. -/
theorem render_of_answered {style : HeaderStyle} {now : Calendar.Instant} {commit : Commit}
    (h : style.IsDatable now commit) (links : Bool) {lookup : Lookup σ} {state : σ}
    {revisions : List Revision}
    (hanswers : lookup.answers (shortRequests (commit.children ++ commit.parents)) state =
      revisions.map .ok) :
    ∃ authorDate commitDate, style.dates.text? now commit.authorDate = some authorDate ∧
      style.dates.text? now commit.commitDate = some commitDate ∧
      (style.render now commit links lookup state).1 =
        .ok (textOf ((style.contents commit links authorDate commitDate revisions).map
          (style.lineOf commit))) := by
  obtain ⟨fixed, hfixed, hrender⟩ := render_of_isDatable h links lookup.logged (state, [])
  obtain ⟨authorDate, commitDate, hauthor, hcommit, rfl⟩ := fixedLines?_eq hfixed
  refine ⟨authorDate, commitDate, hauthor, hcommit, ?_⟩
  rw [← render_logged style now commit links lookup state [], hrender,
    (resolve_of_answered hanswers []).1]
  simp only [Except.map, relatedBlocks_eq, contents, List.map_append, List.append_assoc]

/-! ## Lines without line feeds -/

/-- Nothing that goes into the header of a commit holds a line feed. -/
structure IsOneLined (style : HeaderStyle) (now : Calendar.Instant) (commit : Commit)
    (revisions : List Revision) : Prop where
  label : ∀ label ∈ style.labels.fixed ++ [style.labels.children, style.labels.parents],
    OneLine label
  author : OneLine commit.author
  committer : OneLine commit.committer
  scheme : OneLine style.scheme
  authorDate : ∀ text ∈ style.dates.text? now commit.authorDate, OneLine text
  commitDate : ∀ text ∈ style.dates.text? now commit.commitDate, OneLine text
  subject : ∀ revision ∈ revisions, OneLine revision.subject

theorem oneLine_pad (alignment : Alignment) {text : String} (h : OneLine text) (column : Nat) :
    OneLine (alignment.pad text column) := by
  rw [Alignment.pad, Text.oneLine_append]
  refine ⟨h, ?_⟩
  cases alignment with
  | spaces => exact Text.oneLine_ofList_replicate (by decide) _
  | tabs => exact Text.oneLine_ofList_replicate (by decide) _

theorem oneLine_lineOf {style : HeaderStyle} (commit : Commit) {content : Option String × String}
    (hlabel : ∀ label ∈ content.1, OneLine label) (hvalue : OneLine content.2) :
    OneLine (style.lineOf commit content).text := by
  rw [HeaderLine.text, Text.oneLine_append]
  refine ⟨?_, hvalue⟩
  obtain ⟨head, value⟩ := content
  cases head with
  | none => exact oneLine_pad _ (by decide) _
  | some label =>
      have hcolon : OneLine ":" := by decide
      have hencoded := Markup.oneLine_encode (hlabel label rfl)
      exact oneLine_pad _ (Text.oneLine_append.mpr ⟨hencoded, hcolon⟩) _

theorem oneLine_idText {style : HeaderStyle} (h : OneLine style.scheme) (links : Bool)
    (id : ObjectId) : OneLine (style.idText links id) := by
  rw [idText_eq]
  cases links with
  | false => exact id.oneLine_short
  | true =>
      have htarget : OneLine (style.scheme ++ id.hex) :=
        Text.oneLine_append.mpr ⟨h, id.oneLine_hex⟩
      exact Markup.oneLine_render htarget id.oneLine_short

theorem oneLine_of_mem_blockContents {style : HeaderStyle} {links : Bool} {label : String}
    {ids : List ObjectId} {revisions : List Revision} (hscheme : OneLine style.scheme)
    (hlabel : OneLine label) (hsubject : ∀ revision ∈ revisions, OneLine revision.subject)
    {content : Option String × String}
    (h : content ∈ style.blockContents links label ids revisions) :
    (∀ head ∈ content.1, OneLine head) ∧ OneLine content.2 := by
  obtain ⟨i, hi, rfl⟩ := List.mem_mapIdx.mp h
  refine ⟨?_, ?_⟩
  · intro head hhead
    dsimp only at hhead
    split_ifs at hhead with hfirst
    · cases hhead
      exact hlabel
    · cases hhead
  · have hspace : OneLine " " := by decide
    have hrevision : (ids.zip revisions)[i].2 ∈ revisions :=
      (List.of_mem_zip (List.getElem_mem hi)).2
    simp only [Text.oneLine_append]
    exact ⟨⟨oneLine_idText hscheme links _, hspace⟩, hsubject _ hrevision⟩

theorem oneLine_of_mem_contents {style : HeaderStyle} {now : Calendar.Instant} {commit : Commit}
    {links : Bool} {authorDate commitDate : String} {revisions : List Revision}
    (h : style.IsOneLined now commit revisions)
    (hauthor : style.dates.text? now commit.authorDate = some authorDate)
    (hcommit : style.dates.text? now commit.commitDate = some commitDate)
    {content : Option String × String}
    (hcontent : content ∈ style.contents commit links authorDate commitDate revisions) :
    (∀ head ∈ content.1, OneLine head) ∧ OneLine content.2 := by
  have hlabel := h.label
  simp only [Labels.fixed, List.cons_append, List.nil_append, List.forall_mem_cons] at hlabel
  obtain ⟨hauthorLabel, hauthorDateLabel, hcommitterLabel, hcommitDateLabel, hhashLabel, hchildren,
    hparents, -⟩ := hlabel
  have hhead {label : String} (honeLine : OneLine label) : ∀ head ∈ some label, OneLine head := by
    rintro head ⟨⟩
    exact honeLine
  rw [contents, List.mem_append, List.mem_append] at hcontent
  rcases hcontent with (hfixed | hblock) | hblock
  · simp only [fixedContents, List.mem_cons, List.not_mem_nil, or_false] at hfixed
    rcases hfixed with rfl | rfl | rfl | rfl | rfl
    · exact ⟨hhead hauthorLabel, Markup.oneLine_signatureMarkup h.author⟩
    · exact ⟨hhead hauthorDateLabel, h.authorDate authorDate hauthor⟩
    · exact ⟨hhead hcommitterLabel, Markup.oneLine_signatureMarkup h.committer⟩
    · exact ⟨hhead hcommitDateLabel, h.commitDate commitDate hcommit⟩
    · exact ⟨hhead hhashLabel, commit.id.oneLine_hex⟩
  · exact oneLine_of_mem_blockContents h.scheme hchildren
      (fun revision hrevision => h.subject revision (List.mem_of_mem_take hrevision)) hblock
  · exact oneLine_of_mem_blockContents h.scheme hparents
      (fun revision hrevision => h.subject revision (List.mem_of_mem_drop hrevision)) hblock

/-! ## Labels without lines -/

section Relabelled

/- Other labels make no difference as long as those of the fixed lines and of the blocks that have
lines are the same. -/
variable {style : HeaderStyle} {labels : Labels} {commit : Commit}

theorem fixedLines?_congr (hfixed : labels.fixed = style.labels.fixed) (now : Calendar.Instant)
    (commit : Commit) (lead person : String → String) :
    ({ style with labels } : HeaderStyle).fixedLines? now commit lead person =
      style.fixedLines? now commit lead person := by
  simp only [Labels.fixed, List.cons.injEq, and_true] at hfixed
  obtain ⟨hauthor, hauthorDate, hcommitter, hcommitDate, hcommitHash⟩ := hfixed
  simp only [fixedLines?, hauthor, hauthorDate, hcommitter, hcommitDate, hcommitHash]

theorem markupColumn_congr (hfixed : labels.fixed = style.labels.fixed)
    (hchildren : commit.children = [] ∨ labels.children = style.labels.children)
    (hparents : commit.parents = [] ∨ labels.parents = style.labels.parents) :
    ({ style with labels } : HeaderStyle).markupColumn commit = style.markupColumn commit := by
  have hpresent : labels.present commit = style.labels.present commit := by
    rcases hchildren with hchildren | hchildren <;> rcases hparents with hparents | hparents <;>
      simp [Labels.present, hfixed, hchildren, hparents]
  rw [markupColumn, markupColumn, hpresent]

theorem relatedLines_congr (links : Bool) (column : Nat) {label other : String}
    {relatives : List Relative} (h : relatives = [] ∨ label = other) :
    ({ style with labels } : HeaderStyle).relatedLines links column label relatives =
      style.relatedLines links column other relatives := by
  rcases h with rfl | rfl
  · rfl
  · cases relatives <;> rfl

theorem relatedBlocks_congr (hfixed : labels.fixed = style.labels.fixed)
    (hchildren : commit.children = [] ∨ labels.children = style.labels.children)
    (hparents : commit.parents = [] ∨ labels.parents = style.labels.parents) (links : Bool)
    {relatives : List Relative}
    (hids : relatives.map Relative.id = commit.children ++ commit.parents) :
    ({ style with labels } : HeaderStyle).relatedBlocks commit links relatives =
      style.relatedBlocks commit links relatives := by
  have hlength : relatives.length = commit.children.length + commit.parents.length := by
    simpa using congrArg List.length hids
  rw [relatedBlocks, relatedBlocks, markupColumn_congr hfixed hchildren hparents]
  dsimp only
  rw [List.splitAt_eq]
  refine congrArg₂ (· ++ ·) (relatedLines_congr links _ ?_) (relatedLines_congr links _ ?_)
  · exact hchildren.imp (fun hnone => by simp [hnone]) id
  · exact hparents.imp (fun hnone => by simp [hlength, hnone]) id

end Relabelled

/-- The label of a block that has no lines does not count for anything. -/
theorem render_of_labels (style : HeaderStyle) (labels : Labels) {commit : Commit}
    (hfixed : labels.fixed = style.labels.fixed)
    (hchildren : commit.children = [] ∨ labels.children = style.labels.children)
    (hparents : commit.parents = [] ∨ labels.parents = style.labels.parents)
    (now : Calendar.Instant) (links : Bool) (lookup : Lookup σ) (state : σ) :
    ({ style with labels } : HeaderStyle).render now commit links lookup state =
      style.render now commit links lookup state := by
  unfold render markupLines
  dsimp only
  rw [markupColumn_congr hfixed hchildren hparents, fixedLines?_congr hfixed]
  cases style.fixedLines? now commit
      (fun label => style.alignment.label label (style.markupColumn commit) true)
      Markup.signatureMarkup with
  | none => rfl
  | some fixed =>
      cases hrun : resolve lookup (commit.children ++ commit.parents) state with
      | mk outcome next =>
          cases outcome with
          | error e => rfl
          | ok relatives =>
              have hids := map_id_of_resolve (congrArg Prod.fst hrun)
              dsimp only
              rw [relatedBlocks_congr hfixed hchildren hparents links hids]

/-! ## Reading back -/

theorem length_contents {style : HeaderStyle} {commit : Commit} {links : Bool}
    {authorDate commitDate : String} {revisions : List Revision}
    (h : revisions.length = commit.children.length + commit.parents.length) :
    (style.contents commit links authorDate commitDate revisions).length =
      5 + commit.children.length + commit.parents.length := by
  simp only [contents, fixedContents, blockContents, List.length_append, List.length_cons,
    List.length_nil, List.length_mapIdx, List.length_zip, List.length_take, List.length_drop]
  omega

theorem map_fst_blockContents (style : HeaderStyle) (links : Bool) (label : String)
    (ids : List ObjectId) (revisions : List Revision) :
    (style.blockContents links label ids revisions).map Prod.fst =
      Labels.blockHeads label (ids.zip revisions).length := by
  unfold blockContents
  cases ids.zip revisions with
  | nil => rfl
  | cons entry entries =>
      rw [List.mapIdx_cons, List.map_cons, List.length_cons, Labels.blockHeads]
      refine congrArg₂ List.cons rfl (List.eq_replicate_iff.mpr ⟨by simp, ?_⟩)
      intro head hhead
      obtain ⟨content, hcontent, rfl⟩ := List.mem_map.mp hhead
      obtain ⟨i, hi, rfl⟩ := List.mem_mapIdx.mp hcontent
      rfl

theorem map_fst_contents {style : HeaderStyle} {commit : Commit} {links : Bool}
    {authorDate commitDate : String} {revisions : List Revision}
    (h : revisions.length = commit.children.length + commit.parents.length) :
    (style.contents commit links authorDate commitDate revisions).map Prod.fst =
      style.labels.heads commit.children.length commit.parents.length := by
  have hchildren : (commit.children.zip (revisions.take commit.children.length)).length =
      commit.children.length := by
    rw [List.length_zip, List.length_take]
    omega
  have hparents : (commit.parents.zip (revisions.drop commit.children.length)).length =
      commit.parents.length := by
    rw [List.length_zip, List.length_drop]
    omega
  rw [contents, List.map_append, List.map_append, map_fst_blockContents, map_fst_blockContents,
    hchildren, hparents]
  rfl

/-- The lines of a header are those of its contents: none is missing, added or out of place. Each is
the lead of its label, or a blank one, and its value. -/
structure ReadsBack (style : HeaderStyle) (now : Calendar.Instant) (commit : Commit) (links : Bool)
    (revisions : List Revision) (lines : List String) : Prop where
  length_eq : lines.length = 5 + commit.children.length + commit.parents.length
  lines_eq : ∃ (authorDate commitDate : String) (leads : List String) (longest column : Nat),
    style.dates.text? now commit.authorDate = some authorDate ∧
    style.dates.text? now commit.commitDate = some commitDate ∧
    Aligned style.alignment Markup.Entity.encode
      ((style.contents commit links authorDate commitDate revisions).map Prod.fst)
      leads longest column ∧
    lines = List.zipWith (fun lead content => lead ++ content.2) leads
      (style.contents commit links authorDate commitDate revisions)
  digits : ∀ id ∈ commit.children ++ commit.parents, id.hex.length = 40 ∧ id.short.length = 8

theorem readsBack_of_isOneLined {style : HeaderStyle} {now : Calendar.Instant} {commit : Commit}
    (hdatable : style.IsDatable now commit) (links : Bool) {lookup : Lookup σ} {state : σ}
    {revisions : List Revision}
    (hanswers : lookup.answers (shortRequests (commit.children ++ commit.parents)) state =
      revisions.map .ok)
    (h : style.IsOneLined now commit revisions) :
    ∃ text, (style.render now commit links lookup state).1 = .ok text ∧
      style.ReadsBack now commit links revisions (Text.splitLines text) := by
  obtain ⟨authorDate, commitDate, hauthor, hcommit, hrender⟩ :=
    render_of_answered hdatable links hanswers
  have hlength : revisions.length = commit.children.length + commit.parents.length := by
    have hcount := congrArg List.length hanswers
    simpa [Lookup.length_answers, shortRequests] using hcount.symm
  have hlines : Text.splitLines (textOf ((style.contents commit links authorDate commitDate
      revisions).map (style.lineOf commit))) =
      ((style.contents commit links authorDate commitDate revisions).map
        (style.lineOf commit)).map HeaderLine.text := by
    apply Text.splitLines_joinLines
    · simp [contents, fixedContents]
    · intro line hline
      rw [List.map_map] at hline
      obtain ⟨content, hcontent, rfl⟩ := List.mem_map.mp hline
      obtain ⟨hhead, hvalue⟩ := oneLine_of_mem_contents h hauthor hcommit hcontent
      exact oneLine_lineOf commit hhead hvalue
  have haligned := style.aligned_markup commit
  rw [← map_fst_contents hlength] at haligned
  refine ⟨_, hrender, ?_, ⟨authorDate, commitDate, _, _, _, hauthor, hcommit, haligned, ?_⟩, ?_⟩
  · rw [hlines, List.length_map, List.length_map, length_contents hlength]
  · rw [hlines, List.map_map, List.map_map, List.zipWith_map_left, List.zipWith_self]
    rfl
  · exact fun id _ => ⟨id.length_hex, id.length_short⟩

/-- Once every related commit is known and nothing holds a line feed, the lines of a header are the
ones it was made of. A block without lines has no effect on the others, whatever its label. -/
theorem render_reads_back (style : HeaderStyle) (now : Calendar.Instant) (commit : Commit)
    (links : Bool) (lookup : Lookup σ) (state : σ) (revisions : List Revision)
    (hanswers : lookup.answers (shortRequests (commit.children ++ commit.parents)) state =
      revisions.map .ok)
    (hlines : style.IsOneLined now commit revisions) :
    ((¬ style.IsDatable now commit ∧
        (style.render now commit links lookup state).1 = .error .undatable) ∨
      ∃ text, (style.render now commit links lookup state).1 = .ok text ∧
        style.ReadsBack now commit links revisions (Text.splitLines text)) ∧
    (commit.children = [] → ∀ children,
      ({ style with labels := { style.labels with children } } : HeaderStyle).render now commit
        links lookup state = style.render now commit links lookup state) ∧
    (commit.parents = [] → ∀ parents,
      ({ style with labels := { style.labels with parents } } : HeaderStyle).render now commit
        links lookup state = style.render now commit links lookup state) := by
  refine ⟨?_, ?_, ?_⟩
  · by_cases hdatable : style.IsDatable now commit
    · exact .inr (readsBack_of_isOneLined hdatable links hanswers hlines)
    · exact .inl ⟨hdatable, by rw [render_of_not_isDatable hdatable]⟩
  · exact fun hnone children => render_of_labels style { style.labels with children } rfl
      (.inl hnone) (.inr rfl) now links lookup state
  · exact fun hnone parents => render_of_labels style { style.labels with parents } rfl
      (.inr rfl) (.inl hnone) now links lookup state

theorem render_reads_back_sample :
    let child : Revision := ⟨.repeated 3, "Child", none⟩
    RevisionTable.lookup.answers (shortRequests (sampleCommit.children ++ sampleCommit.parents))
        sampleTable = [child, child].map .ok ∧
      ({} : HeaderStyle).IsOneLined ⟨0, 0⟩ sampleCommit [child, child] ∧
      ∃ text, (({} : HeaderStyle).render ⟨0, 0⟩ sampleCommit true RevisionTable.lookup
          sampleTable).1 = .ok text ∧
        ({} : HeaderStyle).ReadsBack ⟨0, 0⟩ sampleCommit true [child, child]
          (Text.splitLines text) := by
  intro child
  have hanswers : RevisionTable.lookup.answers
      (shortRequests (sampleCommit.children ++ sampleCommit.parents)) sampleTable =
        [child, child].map .ok := rfl
  have hlines : ({} : HeaderStyle).IsOneLined ⟨0, 0⟩ sampleCommit [child, child] :=
    { label := by decide +kernel
      author := by decide +kernel
      committer := by decide +kernel
      scheme := by decide +kernel
      authorDate := by decide +kernel
      commitDate := by decide +kernel
      subject := by decide +kernel }
  refine ⟨hanswers, hlines, ?_⟩
  rcases (render_reads_back {} ⟨0, 0⟩ sampleCommit true RevisionTable.lookup sampleTable
    [child, child] hanswers hlines).1 with ⟨hdates, -⟩ | hread
  · have hdatable : ({} : HeaderStyle).IsDatable ⟨0, 0⟩ sampleCommit := by
      unfold IsDatable
      decide +kernel
    exact absurd hdatable hdates
  · exact hread

end HeaderStyle

end CommitHeader
