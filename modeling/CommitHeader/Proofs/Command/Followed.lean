import CommitHeader.Command
import CommitHeader.Proofs.Command.Arguments
import CommitHeader.Proofs.Command.Branches

/-!
# A branch that is not there

Where the search for the branch that another one follows finds nothing, the warning tells what is
configured, without the directory of branches where the value has one and as it stands where it has
none. The search knows only values with the directory. So the warning is true of those, and a value
without is warned of even if the very branch is listed.
-/

namespace CommitHeader

/-! ## Answers -/

theorem Workspace.eq_of_openRepository {workspace : Workspace} {path : Option String}
    {repository : Repository} (h : workspace.openRepository path = .ok repository) :
    repository = workspace.repository := by
  unfold openRepository at h
  split at h <;> cases h
  rfl

/-- An answer is about a local branch of a view, and tells what the search in that view gives. -/
structure FollowedAnswer.RestsOn (answer : FollowedAnswer) (view : BranchView) : Prop where
  config_eq : answer.config = view.config
  branch_mem : answer.branch ∈ view.refs
  isHead : answer.branch.name.isHead
  followed_eq : answer.followed = findTracked? view.config answer.branch.name
    (view.refs.filter fun other => other.name.isRemote)

namespace FollowedRequest

variable {request : FollowedRequest} {workspace : Workspace} {answer : FollowedAnswer}

theorem exists_view (h : request.answer workspace = .ok answer) :
    ∃ view, workspace.repository.branchView = .ok view ∧ answer.RestsOn view := by
  obtain ⟨repository, hopen, h⟩ := exists_of_bind_eq_ok h
  obtain rfl := Workspace.eq_of_openRepository hopen
  -- A branch that is checked out is searched for by its name, like one that is given.
  have hnamed : ∃ name, (do
      let view ← workspace.repository.branchView
      let found ← view.followed name
      return ⟨found.1, found.2, view.config⟩) = Except.ok answer := by
    dsimp only at h
    split at h
    · exact ⟨_, h⟩
    · obtain ⟨name, -, h⟩ := exists_of_bind_eq_ok h
      exact ⟨name, h⟩
  obtain ⟨name, h⟩ := hnamed
  obtain ⟨view, hview, h⟩ := exists_of_bind_eq_ok h
  obtain ⟨found, hfound, h⟩ := exists_of_bind_eq_ok h
  cases h
  unfold BranchView.followed at hfound
  cases hbranch : view.localBranch name with
  | error cause =>
      rw [hbranch] at hfound
      cases hfound
  | ok branch =>
      rw [hbranch] at hfound
      cases hfound
      obtain ⟨hmem, hhead⟩ := BranchView.of_localBranch_eq_ok hbranch
      exact ⟨view, hview, rfl, hmem, hhead, rfl⟩

theorem restsOn_of_answer {view : BranchView} (hview : workspace.repository.branchView = .ok view)
    (h : request.answer workspace = .ok answer) : answer.RestsOn view := by
  obtain ⟨other, hother, hrests⟩ := exists_view h
  obtain rfl := Except.ok.inj (hother.symm.trans hview)
  exact hrests

end FollowedRequest

/-! ## The warning -/

namespace FollowedAnswer

/-- The configured remote of the branch that was asked about. -/
def remote (answer : FollowedAnswer) : String :=
  answer.branch.name.tracksRemote answer.config

/-- The configured branch of that remote, without the directory of branches if the value has it. -/
def merged (answer : FollowedAnswer) : String :=
  answer.branch.name.mergesWith answer.config

/-- The warning that the configured branch does not exist. -/
def missingText (answer : FollowedAnswer) : String :=
  Terminal.Notice.warning.line (answer.branch.name.short ++ " is configured to track " ++
    answer.remote ++ "/" ++ answer.merged ++ ", but no such remote-tracking branch exists")

end FollowedAnswer

/-- A coloured name and a warning differ in the colour at their start. -/
theorem Terminal.refName_append_ne_line (name rest message : String) :
    refName name ++ rest ≠ Notice.warning.line message := by
  intro h
  have hchar := congrArg (fun text => text.toList[6]?) h
  have hbold : rendition 1 = "\x1b[1m" := rfl
  have hcyan : rendition 96 = "\x1b[96m" := rfl
  have hyellow : rendition 33 = "\x1b[33m" := rfl
  simp [refName, Notice.line, bold, coloured, Notice.colour, hbold, hcyan, hyellow] at hchar

theorem Terminal.Notice.line_inj {notice : Notice} {first second : String} :
    notice.line first = notice.line second ↔ first = second := by
  simp only [line, String.append_left_inj, String.append_right_inj]

namespace FollowedAnswer

variable {answer : FollowedAnswer}

theorem text_of_followed {found : Ref} (h : answer.followed = some found) :
    answer.text ≠ answer.missingText := by
  rw [text, h]
  dsimp only
  rw [String.append_assoc, String.append_assoc]
  exact Terminal.refName_append_ne_line _ _ _

theorem text_of_merged_eq_empty (hfollowed : answer.followed = none) (hmerged : answer.merged = "") :
    answer.text ≠ answer.missingText := by
  intro h
  rw [text, hfollowed] at h
  have hempty : (answer.branch.name.mergesWith answer.config).isEmpty = true :=
    String.isEmpty_iff.mpr hmerged
  simp only [hempty, if_true, missingText, Terminal.Notice.line_inj, String.append_assoc,
    String.append_right_inj] at h
  -- The texts part at their second character.
  have hchar := congrArg (fun text => text.toList[1]?) h
  simp at hchar

theorem text_of_merged_ne_empty (hfollowed : answer.followed = none)
    (hmerged : answer.merged ≠ "") : answer.text = answer.missingText := by
  have hempty : ¬ (answer.branch.name.mergesWith answer.config).isEmpty = true := fun h =>
    hmerged (String.isEmpty_iff.mp h)
  rw [text, hfollowed]
  dsimp only
  rw [if_neg hempty]
  rfl

theorem text_eq_missingText_iff :
    answer.text = answer.missingText ↔ answer.followed = none ∧ answer.merged ≠ "" := by
  constructor
  · intro h
    have hfollowed : answer.followed = none := by
      rw [Option.eq_none_iff_forall_ne_some]
      exact fun found hfound => text_of_followed hfound h
    exact ⟨hfollowed, fun hmerged => text_of_merged_eq_empty hfollowed hmerged h⟩
  · rintro ⟨hfollowed, hmerged⟩
    exact text_of_merged_ne_empty hfollowed hmerged

end FollowedAnswer

/-! ## What is configured and what is listed -/

section Configured

variable {repository : Repository} {view : BranchView} {answer : FollowedAnswer}

namespace FollowedAnswer.RestsOn

theorem config_merge (hrests : answer.RestsOn view) (hview : repository.branchView = .ok view) :
    answer.config (mergeKey answer.branch.name.short) =
      (repository.config.value? (mergeKey answer.branch.name.short)).getD "" := by
  rw [hrests.config_eq]
  exact Repository.config_eq_getD hview hrests.branch_mem hrests.isHead (Or.inl rfl)

/-- A value in the directory of branches is searched for as it is told. -/
theorem not_listed {rest : String} (hrests : answer.RestsOn view)
    (hview : repository.branchView = .ok view)
    (hvalue : answer.config (mergeKey answer.branch.name.short) = headsDirectory ++ rest)
    (hfollowed : answer.followed = none) {ref : Ref} (href : ref ∈ view.refs)
    (hkind : ref.name.isRemote) :
    ¬ (ref.name.remoteName = answer.remote ∧ ref.name.short = answer.merged) := by
  rintro ⟨hremote, hshort⟩
  obtain ⟨_, _, hrefs, _⟩ := Repository.branchView_eq_ok hview
  have hmerged : answer.merged = rest := RefName.mergesWith_of_heads hvalue
  have hlocal : answer.branch.name.isRemote = false := by
    rw [RefName.eq_head_of_isHead hrests.isHead]
    rfl
  -- A listed branch of these parts would be followed, so the search would have found it.
  have htracks : answer.branch.name.tracks answer.config ref.name = true := by
    refine (RefName.tracks_iff _ _ _).mpr ⟨hlocal, _, _, RefName.eq_tracking_of_isRemote hkind,
      remoteName_ne_empty hrefs href hkind, ?_, hremote.symm⟩
    rw [hvalue, hshort, hmerged]
  rw [hrests.followed_eq, ← hrests.config_eq, findTracked?_eq_none_iff] at hfollowed
  have hnot := hfollowed ref (List.mem_filter.mpr ⟨href, hkind⟩)
  rw [htracks] at hnot
  cases hnot

/-- A value outside the directory of branches is not found, whatever is listed. -/
theorem followed_eq_none (hrests : answer.RestsOn view)
    (hshort : ∀ rest, answer.config (mergeKey answer.branch.name.short) ≠ headsDirectory ++ rest) :
    answer.followed = none := by
  rw [hrests.followed_eq, ← hrests.config_eq, findTracked?_eq_none_iff]
  intro ref _
  rw [Bool.eq_false_iff]
  intro htracks
  obtain ⟨-, _, short, -, -, hmerge, -⟩ := (RefName.tracks_iff _ _ _).mp htracks
  exact hshort short hmerge

end FollowedAnswer.RestsOn

end Configured

theorem CommandRequest.run_followed {request : FollowedRequest} {workspace : Workspace}
    {answer : FollowedAnswer} (h : request.answer workspace = .ok answer) :
    (followed request).run workspace =
      ⟨answer.text, .ok (if answer.followed.isSome then 0 else 1)⟩ := by
  rw [run, h]

/-- The warning that the branch which is configured does not exist is true of a value in the
directory of branches: no listed branch has that remote and that name. It is printed for every other
value but the empty one, whatever is listed, and for no value at all it is not printed. -/
theorem missing_branch_is_not_listed (workspace : Workspace) (request : FollowedRequest)
    (view : BranchView) (answer : FollowedAnswer)
    (hview : workspace.repository.branchView = .ok view)
    (hanswer : request.answer workspace = .ok answer) :
    (∀ rest, workspace.repository.config.value?
        ("branch." ++ answer.branch.name.short ++ ".merge") = some ("refs/heads/" ++ rest) →
      ((CommandRequest.followed request).run workspace).output = answer.missingText →
      ∀ ref ∈ view.refs, ref.name.isRemote →
        ¬ (ref.name.remoteName = answer.remote ∧ ref.name.short = answer.merged)) ∧
    (∀ value, workspace.repository.config.value?
        ("branch." ++ answer.branch.name.short ++ ".merge") = some value →
      value ≠ "" → (∀ rest, value ≠ "refs/heads/" ++ rest) →
      answer.merged = value ∧
        (CommandRequest.followed request).run workspace = ⟨answer.missingText, .ok 1⟩) ∧
    (workspace.repository.config.value?
        ("branch." ++ answer.branch.name.short ++ ".merge") = none →
      ((CommandRequest.followed request).run workspace).output ≠ answer.missingText) := by
  have hrests := FollowedRequest.restsOn_of_answer hview hanswer
  have hconfig := hrests.config_merge hview
  rw [CommandRequest.run_followed hanswer]
  dsimp only
  refine ⟨?_, ?_, ?_⟩
  · intro rest hvalue hprinted ref href hkind
    obtain ⟨hfollowed, -⟩ := FollowedAnswer.text_eq_missingText_iff.mp hprinted
    have hmerge : answer.config (mergeKey answer.branch.name.short) = headsDirectory ++ rest :=
      hconfig.trans (congrArg (Option.getD · "") hvalue)
    exact hrests.not_listed hview hmerge hfollowed href hkind
  · intro value hvalue hne hshort
    have hmerge : answer.config (mergeKey answer.branch.name.short) = value :=
      hconfig.trans (congrArg (Option.getD · "") hvalue)
    have hmerged : answer.merged = value := RefName.mergesWith_of_forall_ne hmerge hshort
    have hfollowed := hrests.followed_eq_none (hmerge ▸ hshort)
    have htext := FollowedAnswer.text_of_merged_ne_empty hfollowed (hmerged ▸ hne)
    rw [htext, hfollowed]
    exact ⟨hmerged, rfl⟩
  · intro hvalue hprinted
    obtain ⟨-, hmerged⟩ := FollowedAnswer.text_eq_missingText_iff.mp hprinted
    have hmerge : answer.config (mergeKey answer.branch.name.short) = "" :=
      hconfig.trans (congrArg (Option.getD · "") hvalue)
    have hshort : ∀ rest, "" ≠ headsDirectory ++ rest := fun rest h =>
      RefName.heads_append_ne_empty rest h.symm
    exact hmerged (RefName.mergesWith_of_forall_ne hmerge hshort)

/-- The sample, with a branch that follows one that is gone. -/
def Repository.stale : Repository :=
  { Repository.sample with
    config := [("remote.team/core.url", "x"),
      ("remote.team/core.fetch", "+refs/heads/*:refs/remotes/team/core/*"),
      ("branch.main.remote", "team/core"), ("branch.main.merge", "refs/heads/gone")] }

def BranchView.stale : BranchView where
  refs := BranchView.sample.refs
  config := ConfigSnapshot.value
    [("branch.main.remote", "team/core"), ("branch.main.merge", "refs/heads/gone")]

/-- A repository that names the branch to merge without its directory. -/
def Repository.abbreviated : Repository where
  refs := [("refs/heads/main", .direct (.repeated 1)),
    ("refs/remotes/origin/main", .direct (.repeated 2))]
  config := [("branch.main.remote", "origin"), ("branch.main.merge", "main")]

def BranchView.abbreviated : BranchView where
  refs := [⟨.head "main", .repeated 1⟩, ⟨.tracking "origin" "main", .repeated 2⟩]
  config := ConfigSnapshot.value [("branch.main.remote", "origin"), ("branch.main.merge", "main")]

theorem missing_branch_is_not_listed_sample :
    let request : FollowedRequest := ⟨some "main", none⟩
    let stale := { Workspace.sample with repository := .stale }
    let gone : FollowedAnswer := ⟨⟨.head "main", .repeated 1⟩, none, BranchView.stale.config⟩
    let abbreviated := { Workspace.sample with repository := .abbreviated }
    let listed : FollowedAnswer :=
      ⟨⟨.head "main", .repeated 1⟩, none, BranchView.abbreviated.config⟩
    ((CommandRequest.followed request).run stale).output = gone.missingText ∧
      ¬ ("team/core" = gone.remote ∧ "main" = gone.merged) ∧
      listed.merged = "main" ∧
      (CommandRequest.followed request).run abbreviated = ⟨listed.missingText, .ok 1⟩ := by
  intro request stale gone abbreviated listed
  have hprinted : ((CommandRequest.followed request).run stale).output = gone.missingText := by cbv
  have hgone : Repository.stale.config.value? "branch.main.merge" =
      some ("refs/heads/" ++ "gone") := by cbv
  have hmem : ⟨.tracking "team/core" "main", .repeated 2⟩ ∈ BranchView.stale.refs :=
    List.mem_cons_of_mem _ List.mem_cons_self
  have hvalue : Repository.abbreviated.config.value? "branch.main.merge" = some "main" := by cbv
  have hshort : ∀ rest, "main" ≠ "refs/heads/" ++ rest := fun rest =>
    (RefName.heads_append_ne (by decide) rest).symm
  obtain ⟨hnot, -⟩ := missing_branch_is_not_listed stale request .stale gone (by cbv) (by cbv)
  obtain ⟨-, hwarned, -⟩ := missing_branch_is_not_listed abbreviated request .abbreviated listed
    (by cbv) (by cbv)
  exact ⟨hprinted, hnot "gone" hgone hprinted _ hmem rfl,
    hwarned "main" hvalue (by decide) hshort⟩

/-- The warning says that a listed branch does not exist. -/
theorem listed_branch_is_missed :
    let workspace := { Workspace.sample with repository := .abbreviated }
    (Repository.abbreviated.branchView.map BranchView.refs) =
        .ok [⟨.head "main", .repeated 1⟩, ⟨.tracking "origin" "main", .repeated 2⟩] ∧
      (CommandRequest.followed ⟨some "main", none⟩).run workspace =
        ⟨"\x1b[1m\x1b[33m\u26a0\ufe0f\x1b[39m\x1b[0m main is configured to track origin/main, " ++
          "but no such remote-tracking branch exists\n", .ok 1⟩ := by
  refine ⟨?_, ?_⟩ <;> cbv

end CommitHeader
