import CommitHeader.Proofs.Header.Leads

/-!
# The questions of a header

A header asks its lookup for the children and then for the parents of its commit, and gives up at
the first failure. What it asks and how it ends is told here by the answers that the lookup would
give to all the requests, made one after another: a lookup may change with every answer, so a
request is answered in the state that the requests before it leave behind.
-/

namespace CommitHeader

variable {σ : Type}

/-- The requests for short answers about some commits. -/
def shortRequests (ids : List ObjectId) : List Request :=
  ids.map fun id => { id, short := true }

namespace Lookup

/-- What a lookup says to one request. -/
abbrev Answer := Except LookupError Revision

/-- What a lookup says to some requests, made one after another. -/
def answers (lookup : Lookup σ) : List Request → σ → List Answer
  | [], _ => []
  | request :: requests, state =>
      (lookup request state).1 :: answers lookup requests (lookup request state).2

theorem length_answers (lookup : Lookup σ) (requests : List Request) (state : σ) :
    (lookup.answers requests state).length = requests.length := by
  induction requests generalizing state with
  | nil => rfl
  | cons request requests ih => rw [answers, List.length_cons, List.length_cons, ih]

/-- Either all answers are revisions, or some revisions come before a first failure. -/
theorem answered_or_failed (answers : List Answer) :
    (∃ revisions : List Revision, answers = revisions.map .ok) ∨
      ∃ (revisions : List Revision) (cause : LookupError) (later : List Answer),
        answers = revisions.map .ok ++ .error cause :: later := by
  induction answers with
  | nil => exact .inl ⟨[], rfl⟩
  | cons answer answers ih =>
      cases answer with
      | error cause => exact .inr ⟨[], cause, answers, rfl⟩
      | ok revision =>
          rcases ih with ⟨revisions, rfl⟩ | ⟨revisions, cause, later, rfl⟩
          · exact .inl ⟨revision :: revisions, rfl⟩
          · exact .inr ⟨revision :: revisions, cause, later, rfl⟩

end Lookup

namespace HeaderStyle

open Lookup

/-! ## Asking for related commits -/

theorem resolve_cons_error {lookup : Lookup σ} {id : ObjectId} {state : σ} {cause : LookupError}
    (ids : List ObjectId) (h : (lookup ⟨id, true⟩ state).1 = .error cause) :
    resolve lookup (id :: ids) state =
      (.error (.unresolved id cause), (lookup ⟨id, true⟩ state).2) := by
  rw [resolve]
  cases hanswer : lookup ⟨id, true⟩ state with
  | mk answer next =>
      rw [hanswer] at h
      cases h
      rfl

theorem resolve_cons_ok {lookup : Lookup σ} {id : ObjectId} {state : σ} {revision : Revision}
    (ids : List ObjectId) (h : (lookup ⟨id, true⟩ state).1 = .ok revision) :
    resolve lookup (id :: ids) state =
      ((resolve lookup ids (lookup ⟨id, true⟩ state).2).1.map (⟨id, revision.subject⟩ :: ·),
        (resolve lookup ids (lookup ⟨id, true⟩ state).2).2) := by
  rw [resolve]
  cases hanswer : lookup ⟨id, true⟩ state with
  | mk answer next =>
      rw [hanswer] at h
      cases h
      dsimp only
      cases resolve lookup ids next with
      | mk outcome last => cases outcome <;> rfl

/-- Keeping the requests changes neither the outcome nor the state of the lookup. -/
theorem resolve_logged (lookup : Lookup σ) (ids : List ObjectId) (state : σ) (log : List Request) :
    (resolve lookup.logged ids (state, log)).1 = (resolve lookup ids state).1 ∧
      (resolve lookup.logged ids (state, log)).2.1 = (resolve lookup ids state).2 := by
  induction ids generalizing state log with
  | nil => exact ⟨rfl, rfl⟩
  | cons id ids ih =>
      cases hanswer : (lookup ⟨id, true⟩ state).1 with
      | error cause =>
          have hlogged : (lookup.logged ⟨id, true⟩ (state, log)).1 = .error cause := hanswer
          rw [resolve_cons_error ids hanswer, resolve_cons_error ids hlogged]
          exact ⟨rfl, rfl⟩
      | ok revision =>
          have hlogged : (lookup.logged ⟨id, true⟩ (state, log)).1 = .ok revision := hanswer
          obtain ⟨houtcome, hstate⟩ := ih (lookup ⟨id, true⟩ state).2 (log ++ [⟨id, true⟩])
          rw [resolve_cons_ok ids hanswer, resolve_cons_ok ids hlogged]
          exact ⟨congrArg (Except.map _) houtcome, hstate⟩

/-- If every request is answered, all of them are made and each id gets its subject. -/
theorem resolve_of_answered {lookup : Lookup σ} {ids : List ObjectId} {state : σ}
    {revisions : List Revision}
    (h : lookup.answers (shortRequests ids) state = revisions.map .ok) (log : List Request) :
    (resolve lookup.logged ids (state, log)).1 =
        .ok ((ids.zip revisions).map fun entry => ⟨entry.1, entry.2.subject⟩) ∧
      (resolve lookup.logged ids (state, log)).2.2 = log ++ shortRequests ids := by
  induction ids generalizing state revisions log with
  | nil => exact ⟨rfl, (List.append_nil log).symm⟩
  | cons id ids ih =>
      cases revisions with
      | nil => cases h
      | cons revision revisions =>
          obtain ⟨hanswer, hlater⟩ := List.cons.inj h
          have hlogged : (lookup.logged ⟨id, true⟩ (state, log)).1 = .ok revision := hanswer
          obtain ⟨houtcome, hasked⟩ := ih hlater (log ++ [⟨id, true⟩])
          rw [resolve_cons_ok ids hlogged]
          refine ⟨?_, ?_⟩
          · exact congrArg (Except.map _) houtcome
          · exact hasked.trans (List.append_assoc log _ _)

/-- If some request fails, the requests up to it are made and it alone is blamed. -/
theorem resolve_of_failed {lookup : Lookup σ} {ids : List ObjectId} {state : σ}
    {revisions : List Revision} {cause : LookupError} {later : List Answer}
    (h : lookup.answers (shortRequests ids) state = revisions.map .ok ++ .error cause :: later)
    (log : List Request) :
    (∃ id, ids[revisions.length]? = some id ∧
        (resolve lookup.logged ids (state, log)).1 = .error (.unresolved id cause)) ∧
      (resolve lookup.logged ids (state, log)).2.2 =
        log ++ (shortRequests ids).take (revisions.length + 1) := by
  induction ids generalizing state revisions log with
  | nil => simp [shortRequests, answers] at h
  | cons id ids ih =>
      cases revisions with
      | nil =>
          obtain ⟨hanswer, -⟩ := List.cons.inj h
          have hlogged : (lookup.logged ⟨id, true⟩ (state, log)).1 = .error cause := hanswer
          rw [resolve_cons_error ids hlogged]
          exact ⟨⟨id, rfl, rfl⟩, rfl⟩
      | cons revision revisions =>
          obtain ⟨hanswer, hlater⟩ := List.cons.inj h
          have hlogged : (lookup.logged ⟨id, true⟩ (state, log)).1 = .ok revision := hanswer
          obtain ⟨⟨failed, hfailed, houtcome⟩, hasked⟩ := ih hlater (log ++ [⟨id, true⟩])
          rw [resolve_cons_ok ids hlogged]
          refine ⟨⟨failed, hfailed, ?_⟩, ?_⟩
          · exact congrArg (Except.map _) houtcome
          · exact hasked.trans (List.append_assoc log _ _)

/-! ## Asking for the related commits of a header -/

/-- With both dates written, only the lookup decides about the text. -/
theorem render_of_isDatable {style : HeaderStyle} {now : Calendar.Instant} {commit : Commit}
    (h : style.IsDatable now commit) (links : Bool) (lookup : Lookup σ) (state : σ) :
    ∃ fixed, style.fixedLines? now commit
        (fun label => style.alignment.label label (style.markupColumn commit) true)
        Markup.signatureMarkup = some fixed ∧
      style.render now commit links lookup state =
        ((resolve lookup (commit.children ++ commit.parents) state).1.map fun relatives =>
            textOf (fixed ++ style.relatedBlocks commit links relatives),
          (resolve lookup (commit.children ++ commit.parents) state).2) := by
  obtain ⟨fixed, hfixed⟩ := (exists_fixedLines_iff style now commit
    (fun label => style.alignment.label label (style.markupColumn commit) true)
    Markup.signatureMarkup).mpr h
  refine ⟨fixed, hfixed, ?_⟩
  unfold render markupLines
  dsimp only
  rw [hfixed]
  cases resolve lookup (commit.children ++ commit.parents) state with
  | mk outcome next => cases outcome <;> rfl

/-- How a header asks and ends, by the answers to its requests. It has a text exactly if all are
revisions. Up to the first failure every request is made once, and that failure is the one told. -/
structure AsksInTurn (requests : List Request) (answers : List Answer) (asked : List Request)
    (outcome : Except HeaderError String) : Prop where
  ok_iff : (∃ text, outcome = .ok text) ↔ ∃ revisions : List Revision, answers = revisions.map .ok
  asked_of_answered : ∀ revisions : List Revision, answers = revisions.map .ok → asked = requests
  asked_of_failed : ∀ (revisions : List Revision) (cause : LookupError) (later : List Answer),
    answers = revisions.map .ok ++ .error cause :: later →
      asked = requests.take (revisions.length + 1)
  outcome_of_failed : ∀ (revisions : List Revision) (cause : LookupError) (later : List Answer),
    answers = revisions.map .ok ++ .error cause :: later →
      ∃ request, requests[revisions.length]? = some request ∧
        outcome = .error (.unresolved request.id cause)

theorem asksInTurn_of_isDatable {style : HeaderStyle} {now : Calendar.Instant} {commit : Commit}
    (h : style.IsDatable now commit) (links : Bool) (lookup : Lookup σ) (state : σ) :
    AsksInTurn (shortRequests (commit.children ++ commit.parents))
      (lookup.answers (shortRequests (commit.children ++ commit.parents)) state)
      (style.render now commit links lookup.logged (state, [])).2.2
      (style.render now commit links lookup.logged (state, [])).1 := by
  obtain ⟨fixed, -, hrender⟩ := render_of_isDatable h links lookup.logged (state, [])
  rw [hrender]
  generalize commit.children ++ commit.parents = ids
  refine ⟨⟨?_, ?_⟩, ?_, ?_, ?_⟩
  · rintro ⟨text, htext⟩
    rcases answered_or_failed (lookup.answers (shortRequests ids) state) with
      hanswers | ⟨revisions, cause, later, hanswers⟩
    · exact hanswers
    · obtain ⟨⟨id, -, houtcome⟩, -⟩ := resolve_of_failed hanswers []
      rw [houtcome] at htext
      cases htext
  · rintro ⟨revisions, hanswers⟩
    rw [(resolve_of_answered hanswers []).1]
    exact ⟨_, rfl⟩
  · intro revisions hanswers
    exact (resolve_of_answered hanswers []).2
  · intro revisions cause later hanswers
    exact (resolve_of_failed hanswers []).2
  · intro revisions cause later hanswers
    obtain ⟨⟨id, hid, houtcome⟩, -⟩ := resolve_of_failed hanswers []
    refine ⟨⟨id, true⟩, ?_, ?_⟩
    · rw [shortRequests, List.getElem?_map, hid]
      rfl
    · rw [houtcome]
      rfl

theorem render_logged (style : HeaderStyle) (now : Calendar.Instant) (commit : Commit)
    (links : Bool) (lookup : Lookup σ) (state : σ) (log : List Request) :
    (style.render now commit links lookup.logged (state, log)).1 =
      (style.render now commit links lookup state).1 := by
  by_cases h : style.IsDatable now commit
  · obtain ⟨fixed, hfixed, hrender⟩ := render_of_isDatable h links lookup state
    obtain ⟨logged, hlogged, hrenderLogged⟩ :=
      render_of_isDatable h links lookup.logged (state, log)
    cases hfixed.symm.trans hlogged
    rw [hrender, hrenderLogged, (resolve_logged lookup _ state log).1]
  · rw [render_of_not_isDatable h, render_of_not_isDatable h]

/-- Whether ids are links matters to neither the state nor the error. -/
theorem render_links (style : HeaderStyle) (now : Calendar.Instant) (commit : Commit)
    (links other : Bool) (lookup : Lookup σ) (state : σ) :
    (style.render now commit links lookup state).2 =
        (style.render now commit other lookup state).2 ∧
      (style.render now commit links lookup state).1.map (fun _ => ()) =
        (style.render now commit other lookup state).1.map (fun _ => ()) := by
  by_cases h : style.IsDatable now commit
  · obtain ⟨_, -, hrender⟩ := render_of_isDatable h links lookup state
    obtain ⟨_, -, hother⟩ := render_of_isDatable h other lookup state
    rw [hrender, hother]
    refine ⟨rfl, ?_⟩
    cases (resolve lookup (commit.children ++ commit.parents) state).1 <;> rfl
  · rw [render_of_not_isDatable h, render_of_not_isDatable h]
    exact ⟨rfl, rfl⟩

/-- A header whose dates have a text asks for its children and then for its parents until a request
fails, and has a text exactly if none does; without a text for a date it asks nothing. Whether ids
are links makes no difference, and neither does keeping the requests. -/
theorem render_asks_until_failure (style : HeaderStyle) (now : Calendar.Instant) (commit : Commit)
    (links : Bool) (lookup : Lookup σ) (state : σ) :
    (style.IsDatable now commit →
      AsksInTurn (shortRequests (commit.children ++ commit.parents))
        (lookup.answers (shortRequests (commit.children ++ commit.parents)) state)
        (style.render now commit links lookup.logged (state, [])).2.2
        (style.render now commit links lookup.logged (state, [])).1) ∧
    (¬ style.IsDatable now commit →
      style.render now commit links lookup.logged (state, []) = (.error .undatable, state, [])) ∧
    (style.render now commit links lookup.logged (state, [])).1 =
      (style.render now commit links lookup state).1 ∧
    (style.render now commit true lookup.logged (state, [])).2 =
      (style.render now commit false lookup.logged (state, [])).2 ∧
    (style.render now commit true lookup.logged (state, [])).1.map (fun _ => ()) =
      (style.render now commit false lookup.logged (state, [])).1.map (fun _ => ()) := by
  refine ⟨?_, ?_, render_logged style now commit links lookup state [],
    render_links style now commit true false lookup.logged (state, [])⟩
  · exact fun h => asksInTurn_of_isDatable h links lookup state
  · exact fun h => render_of_not_isDatable h links lookup.logged (state, [])

theorem render_asks_until_failure_sample :
    let commit := { sampleCommit with parents := [.repeated 4] }
    (({} : HeaderStyle).render ⟨0, 0⟩ commit true RevisionTable.lookup.logged
        (sampleTable, [])).1 =
      .error (.unresolved (.repeated 4) (.notFound (.repeated 4))) := by
  intro commit
  have hdatable : ({} : HeaderStyle).IsDatable ⟨0, 0⟩ commit := by
    unfold IsDatable
    decide +kernel
  have hasks := (render_asks_until_failure {} ⟨0, 0⟩ commit true RevisionTable.lookup
    sampleTable).1 hdatable
  obtain ⟨request, hrequest, houtcome⟩ := hasks.outcome_of_failed
    [⟨.repeated 3, "Child", none⟩, ⟨.repeated 3, "Child", none⟩] (.notFound (.repeated 4)) [] rfl
  cases hrequest
  exact houtcome

/-- The pattern is valid and cannot be written, and the mail form has no place for the year 10000:
the first child is never asked for, though the lookup would fail for it. -/
theorem render_asks_nothing_of_far_date :
    let style : HeaderStyle := { dates := { pattern := "%#z" } }
    let commit := { sampleCommit with commitDate := ⟨⟨253402300800, 0⟩, 0⟩ }
    style.render ⟨0, 0⟩ commit true RevisionTable.lookup.logged ([], []) =
        (.error .undatable, [], []) ∧
      ¬ AsksInTurn (shortRequests (commit.children ++ commit.parents))
        (RevisionTable.lookup.answers (shortRequests (commit.children ++ commit.parents)) [])
        (style.render ⟨0, 0⟩ commit true RevisionTable.lookup.logged ([], [])).2.2
        (style.render ⟨0, 0⟩ commit true RevisionTable.lookup.logged ([], [])).1 := by
  intro style commit
  have hrun : style.render ⟨0, 0⟩ commit true RevisionTable.lookup.logged ([], []) =
      (.error .undatable, [], []) := by
    decide +kernel
  refine ⟨hrun, ?_⟩
  intro hasks
  rw [hrun] at hasks
  have hasked := hasks.asked_of_failed [] (.notFound (.repeated 3))
    [.error (.notFound (.repeated 3))] rfl
  cases hasked

end HeaderStyle

end CommitHeader
