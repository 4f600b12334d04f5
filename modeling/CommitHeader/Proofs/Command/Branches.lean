import CommitHeader.Command.Branches
import CommitHeader.Proofs.ObjectId
import CommitHeader.Proofs.Ref.Listing
import CommitHeader.Proofs.Repository.Config
import Mathlib

/-!
# Questions about branches

A listing and the snapshot behind it say as much about a local branch as the repository does, so the
answer to the question whether a branch follows another one depends on the configuration alone. The
command that looks for the branch that is followed finds the same one, since at most one listed
reference can be followed.
-/

namespace CommitHeader

/-! ## The view of a repository -/

namespace Repository

theorem branchView_eq_ok {repository : Repository} {view : BranchView}
    (h : repository.branchView = .ok view) :
    ∃ snapshot, repository.snapshot = .ok snapshot ∧ listRefs repository.branches = .ok view.refs ∧
      view.config = snapshot.value := by
  unfold branchView at h
  cases hsnapshot : repository.snapshot with
  | error key => simp [hsnapshot] at h
  | ok snapshot =>
      cases hrefs : listRefs repository.branches with
      | error cause => simp [hsnapshot, hrefs] at h
      | ok refs =>
          simp only [hsnapshot, hrefs, Except.ok.injEq] at h
          subst h
          exact ⟨snapshot, rfl, rfl, rfl⟩

theorem filterMap_complete_branches (repository : Repository) :
    repository.branches.filterMap BranchEntry.complete? = repository.branchRefs.map Prod.fst := by
  unfold branches
  rw [List.filterMap_map, ← List.filterMap_eq_map]
  rfl

theorem complete_nodup {repository : Repository} {view : BranchView}
    (h : repository.branchView = .ok view)
    (hdistinct : (repository.branchRefs.map Prod.fst).Nodup) :
    (view.refs.map fun ref => ref.name.complete).Nodup := by
  obtain ⟨_, _, hrefs, _⟩ := branchView_eq_ok h
  rw [← filterMap_complete_branches] at hdistinct
  exact (map_complete_sublist hrefs).nodup hdistinct

theorem short_mem_localBranches {repository : Repository} {view : BranchView} {branch : Ref}
    (h : repository.branchView = .ok view) (hbranch : branch ∈ view.refs)
    (hhead : branch.name.isHead) : branch.name.short ∈ repository.localBranches := by
  obtain ⟨_, _, hrefs, _⟩ := branchView_eq_ok h
  have hcomplete := (map_complete_sublist hrefs).subset (List.mem_map_of_mem hbranch)
  rw [filterMap_complete_branches] at hcomplete
  obtain ⟨ref, href, hname⟩ := List.mem_map.mp hcomplete
  refine List.mem_filterMap.mpr ⟨ref, href, Text.afterLead?_eq_some_iff.mpr ?_⟩
  rw [hname, RefName.eq_head_of_isHead hhead]
  rfl

/-- The view answers for a listed local branch as the configuration does. -/
theorem config_eq_getD {repository : Repository} {view : BranchView} {branch : Ref} {key : String}
    (h : repository.branchView = .ok view) (hbranch : branch ∈ view.refs)
    (hhead : branch.name.isHead)
    (hkey : key = mergeKey branch.name.short ∨ key = remoteKey branch.name.short) :
    view.config key = (repository.config.value? key).getD "" := by
  obtain ⟨snapshot, hsnapshot, -, hconfig⟩ := branchView_eq_ok h
  have hname := List.mem_map_of_mem (f := some) (short_mem_localBranches h hbranch hhead)
  rw [hconfig, ConfigSnapshot.value_of_ofBranches hsnapshot hname hkey, Config.value?_answer]

end Repository

/-! ## One view -/

namespace BranchView

theorem localBranch_eq_ok_iff {view : BranchView}
    (hdistinct : (view.refs.map fun ref => ref.name.complete).Nodup) {name : String}
    {branch : Ref} :
    view.localBranch name = .ok branch ↔
      Means view.refs name headsDirectory branch ∧ branch.name.isHead := by
  unfold localBranch
  rw [← findRef?_eq_some_iff hdistinct]
  cases findRef? view.refs name headsDirectory with
  | none => simp
  | some ref =>
      by_cases hhead : ref.name.isHead
      · simp only [Option.filter_some, hhead, if_true, Except.ok.injEq, Option.some.injEq]
        constructor
        · rintro rfl
          exact ⟨rfl, hhead⟩
        · exact And.left
      · simp only [Option.filter_some, hhead, Bool.false_eq_true, if_false, reduceCtorEq,
          Option.some.injEq, false_iff, not_and]
        rintro rfl
        exact hhead

theorem of_localBranch_eq_ok {view : BranchView} {name : String} {branch : Ref}
    (h : view.localBranch name = .ok branch) : branch ∈ view.refs ∧ branch.name.isHead := by
  unfold localBranch at h
  split at h
  · rename_i hfound
    cases h
    obtain ⟨hfind, hhead⟩ := Option.filter_eq_some_iff.mp hfound
    exact ⟨mem_of_findRef?_eq_some hfind, hhead⟩
  · cases h

theorem localBranch_cases (view : BranchView) (name : String) :
    (∃ branch, view.localBranch name = .ok branch) ∨
      view.localBranch name = .error (.branchNotFound name) := by
  unfold localBranch
  split
  · exact Or.inl ⟨_, rfl⟩
  · exact Or.inr rfl

theorem tracks_of_ok {view : BranchView} {name : String} {branch : Ref}
    (h : view.localBranch name = .ok branch) (remote : String) :
    view.tracks name remote = .ok ((findRef? view.refs remote remotesDirectory).any
      fun candidate => branch.name.tracks view.config candidate.name) := by
  unfold tracks
  rw [h, Except.map]
  cases findRef? view.refs remote remotesDirectory <;> rfl

theorem tracks_of_error {view : BranchView} {name : String} {cause : Failure}
    (h : view.localBranch name = .error cause) (remote : String) :
    view.tracks name remote = .error cause := by
  unfold tracks
  rw [h, Except.map]

/-- The branch that is found is followed, and there is no other one that might be found. -/
theorem findTracked?_eq_some_iff {view : BranchView}
    (hdistinct : (view.refs.map fun ref => ref.name.complete).Nodup) {name : RefName}
    {found : Ref} :
    findTracked? view.config name (view.refs.filter fun other => other.name.isRemote) =
        some found ↔
      found ∈ view.refs ∧ name.tracks view.config found.name = true := by
  have hcandidates : ((view.refs.filter fun other => other.name.isRemote).map
      fun ref => ref.name.complete).Nodup :=
    (List.filter_sublist.map _).nodup hdistinct
  rw [findTracked?_eq_some_iff_mem hcandidates, List.mem_filter]
  constructor
  · rintro ⟨⟨hmem, -⟩, htracks⟩
    exact ⟨hmem, htracks⟩
  · rintro ⟨hmem, htracks⟩
    exact ⟨⟨hmem, RefName.isRemote_of_tracks htracks⟩, htracks⟩

/-- A reference follows what a name means exactly if that is the branch found for it. -/
theorem any_tracks_iff {view : BranchView}
    (hdistinct : (view.refs.map fun ref => ref.name.complete).Nodup) (name : RefName)
    (remote : String) :
    (findRef? view.refs remote remotesDirectory).any
        (fun candidate => name.tracks view.config candidate.name) = true ↔
      ∃ found, findTracked? view.config name (view.refs.filter fun other => other.name.isRemote) =
          some found ∧ found.name.isRemote ∧
        findRef? view.refs remote remotesDirectory = some found := by
  rw [Option.any_eq_true]
  constructor
  · intro h
    obtain ⟨found, hfind, htracks⟩ := h
    have hmem := ((findRef?_eq_some_iff hdistinct).mp hfind).1
    exact ⟨found, (findTracked?_eq_some_iff hdistinct).mpr ⟨hmem, htracks⟩,
      RefName.isRemote_of_tracks htracks, hfind⟩
  · intro h
    obtain ⟨found, hfollowed, -, hfind⟩ := h
    exact ⟨found, hfind, ((findTracked?_eq_some_iff hdistinct).mp hfollowed).2⟩

/-- The branch found for a reference is meant by its own complete name. -/
theorem exists_findTracked?_iff {view : BranchView}
    (hdistinct : (view.refs.map fun ref => ref.name.complete).Nodup) (name : RefName) :
    (∃ found, findTracked? view.config name
        (view.refs.filter fun other => other.name.isRemote) = some found) ↔
      ∃ remote, (findRef? view.refs remote remotesDirectory).any
        (fun candidate => name.tracks view.config candidate.name) = true := by
  constructor
  · intro h
    obtain ⟨found, hfollowed⟩ := h
    obtain ⟨hmem, htracks⟩ := (findTracked?_eq_some_iff hdistinct).mp hfollowed
    refine ⟨found.name.complete, (any_tracks_iff hdistinct name _).mpr ⟨found, hfollowed, ?_, ?_⟩⟩
    · exact RefName.isRemote_of_tracks htracks
    · exact (findRef?_eq_some_iff hdistinct).mpr ⟨hmem, Or.inl rfl⟩
  · intro h
    obtain ⟨remote, h⟩ := h
    obtain ⟨found, hfollowed, -⟩ := (any_tracks_iff hdistinct name remote).mp h
    exact ⟨found, hfollowed⟩

end BranchView

/-! ## Answers -/

theorem TracksRequest.answer_eq {workspace : Workspace} {request : TracksRequest}
    {repository : Repository} {view : BranchView}
    (hopen : workspace.openRepository request.repository = .ok repository)
    (hview : repository.branchView = .ok view) :
    request.answer workspace = view.tracks request.branch request.remote := by
  unfold answer
  rw [hopen]
  simp only [bind, Except.bind, hview]

theorem FollowedRequest.answer_eq {workspace : Workspace} {path : Option String}
    {repository : Repository} {view : BranchView} (name : String)
    (hopen : workspace.openRepository path = .ok repository)
    (hview : repository.branchView = .ok view) :
    FollowedRequest.answer { branch := some name, repository := path } workspace =
      (view.localBranch name).map fun branch =>
        { branch
          followed := findTracked? view.config branch.name
            (view.refs.filter fun other => other.name.isRemote)
          config := view.config } := by
  unfold answer BranchView.followed
  rw [hopen]
  simp only [bind, Except.bind, hview, pure, Except.pure]
  cases view.localBranch name <;> rfl

/-- The configuration of a repository makes a local branch follow the reference that a name
means. -/
def Repository.Follows (repository : Repository) (refs : List Ref) (branch : Ref)
    (remote : String) : Prop :=
  ∃ candidate, Means refs remote remotesDirectory candidate ∧ candidate.name.isRemote ∧
    repository.config.value? ("branch." ++ branch.name.short ++ ".remote") =
      some candidate.name.remoteName ∧
    repository.config.value? ("branch." ++ branch.name.short ++ ".merge") =
      some ("refs/heads/" ++ candidate.name.short)

theorem getD_empty_eq_iff {value? : Option String} {text : String} (h : text ≠ "") :
    value?.getD "" = text ↔ value? = some text := by
  cases value? with
  | none => simp [Ne.symm h]
  | some value => simp

theorem Repository.follows_iff {repository : Repository} {view : BranchView} {branch : Ref}
    (hview : repository.branchView = .ok view)
    (hdistinct : (view.refs.map fun ref => ref.name.complete).Nodup)
    (hbranch : branch ∈ view.refs) (hhead : branch.name.isHead) (remote : String) :
    (findRef? view.refs remote remotesDirectory).any
        (fun candidate => branch.name.tracks view.config candidate.name) = true ↔
      repository.Follows view.refs branch remote := by
  obtain ⟨_, _, hrefs, _⟩ := branchView_eq_ok hview
  have hmerge := config_eq_getD hview hbranch hhead (Or.inl rfl)
  have hremote := config_eq_getD hview hbranch hhead (Or.inr rfl)
  have hlocal : branch.name.isRemote = false := by
    rw [RefName.eq_head_of_isHead hhead]
    rfl
  rw [Option.any_eq_true]
  constructor
  · intro h
    obtain ⟨candidate, hfind, htracks⟩ := h
    have hmeans := (findRef?_eq_some_iff hdistinct).mp hfind
    obtain ⟨-, name, short, hname, hne, hmerged, hfollowed⟩ := (RefName.tracks_iff _ _ _).mp htracks
    refine ⟨candidate, hmeans, RefName.isRemote_of_tracks htracks, ?_, ?_⟩
    · rw [hname]
      exact (getD_empty_eq_iff hne).mp (hremote.symm.trans hfollowed)
    · rw [hname]
      exact (getD_empty_eq_iff (RefName.heads_append_ne_empty _)).mp (hmerge.symm.trans hmerged)
  · intro h
    obtain ⟨candidate, hmeans, hkind, hfollowed, hmerged⟩ := h
    refine ⟨candidate, (findRef?_eq_some_iff hdistinct).mpr hmeans, ?_⟩
    have hne := remoteName_ne_empty hrefs hmeans.1 hkind
    have hname := RefName.eq_tracking_of_isRemote hkind
    refine (RefName.tracks_iff _ _ _).mpr ⟨hlocal, _, _, hname, hne, ?_, ?_⟩
    · exact hmerge.trans ((getD_empty_eq_iff (RefName.heads_append_ne_empty _)).mpr hmerged)
    · exact hremote.trans ((getD_empty_eq_iff hne).mpr hfollowed)

/-- The answer depends on the configuration of the repository alone. There is no answer only if the
first name does not mean a local branch, and then the failure says so. -/
theorem tracks_answer_by_configuration (workspace : Workspace) (request : TracksRequest)
    (repository : Repository) (view : BranchView)
    (hopen : workspace.openRepository request.repository = .ok repository)
    (hview : repository.branchView = .ok view)
    (hdistinct : (repository.branchRefs.map Prod.fst).Nodup) :
    (request.answer workspace = .error (.branchNotFound request.branch) ↔
      ¬ ∃ branch, Means view.refs request.branch headsDirectory branch ∧ branch.name.isHead) ∧
    (Failure.branchNotFound request.branch).message? =
      some ("Local branch '" ++ request.branch ++ "' not found") ∧
    ∀ branch, Means view.refs request.branch headsDirectory branch → branch.name.isHead →
      (request.answer workspace = .ok true ↔
        repository.Follows view.refs branch request.remote) ∧
      (request.answer workspace = .ok false ↔
        ¬ repository.Follows view.refs branch request.remote) := by
  have hnodup := Repository.complete_nodup hview hdistinct
  rw [TracksRequest.answer_eq hopen hview]
  refine ⟨?_, rfl, ?_⟩
  · rcases view.localBranch_cases request.branch with ⟨branch, hbranch⟩ | herror
    · have hmeans := (BranchView.localBranch_eq_ok_iff hnodup).mp hbranch
      rw [BranchView.tracks_of_ok hbranch]
      constructor
      · intro h
        cases h
      · intro h
        exact absurd ⟨branch, hmeans⟩ h
    · rw [BranchView.tracks_of_error herror]
      constructor
      · rintro - ⟨branch, hbranch⟩
        rw [(BranchView.localBranch_eq_ok_iff hnodup).mpr hbranch] at herror
        cases herror
      · exact fun _ => rfl
  · intro branch hmeans hhead
    have hbranch := (BranchView.localBranch_eq_ok_iff hnodup).mpr ⟨hmeans, hhead⟩
    rw [BranchView.tracks_of_ok hbranch,
      ← Repository.follows_iff hview hnodup hmeans.1 hhead request.remote]
    simp

/-- A repository with a remote whose name holds a slash. -/
def Repository.sample : Repository where
  refs := [("refs/heads/main", .direct (.repeated 1)),
    ("refs/remotes/team/core/main", .direct (.repeated 2))]
  config := [("remote.team/core.url", "x"),
    ("remote.team/core.fetch", "+refs/heads/*:refs/remotes/team/core/*"),
    ("branch.main.remote", "team/core"), ("branch.main.merge", "refs/heads/main")]

/-- The view of the sample. -/
def BranchView.sample : BranchView where
  refs := [⟨.head "main", .repeated 1⟩,
    ⟨.tracking "team/core" "main", .repeated 2⟩]
  config := ConfigSnapshot.value
    [("branch.main.remote", "team/core"), ("branch.main.merge", "refs/heads/main")]

/-- A command run where the sample lies. -/
def Workspace.sample : Workspace where
  repository := .sample
  location := []
  tree := {}
  directory := []
  settingsPlace := []
  settingsPath := ""
  now := { seconds := 0 }
  localOffset := 0

theorem Repository.branchView_sample : Repository.sample.branchView = .ok .sample := by cbv

theorem tracks_answer_by_configuration_sample :
    Workspace.sample.openRepository none = .ok .sample ∧
      Repository.sample.branchView = .ok .sample ∧
      (Repository.sample.branchRefs.map Prod.fst).Nodup ∧
      TracksRequest.answer ⟨"main", "team/core/main", none⟩ .sample = .ok true := by
  have hopen : Workspace.sample.openRepository none = .ok .sample := rfl
  have hrefs : Repository.sample.branchRefs = Repository.sample.refs := by cbv
  have hdistinct : (Repository.sample.branchRefs.map Prod.fst).Nodup := by
    rw [hrefs]
    decide
  obtain ⟨-, -, hanswer⟩ := tracks_answer_by_configuration .sample ⟨"main", "team/core/main", none⟩
    .sample .sample hopen Repository.branchView_sample hdistinct
  have hbranch : Means BranchView.sample.refs "main" headsDirectory
      ⟨.head "main", .repeated 1⟩ :=
    ⟨List.mem_cons_self, Or.inr ⟨by decide, rfl⟩⟩
  have hcandidate : Means BranchView.sample.refs "team/core/main" remotesDirectory
      ⟨.tracking "team/core" "main", .repeated 2⟩ :=
    ⟨List.mem_cons_of_mem _ List.mem_cons_self, Or.inr ⟨by decide, by decide⟩⟩
  exact ⟨hopen, Repository.branchView_sample, hdistinct,
    (hanswer _ hbranch rfl).1.mpr ⟨_, hcandidate, rfl, by cbv, by cbv⟩⟩

/-- Both commands know the same local branches. One says that a branch follows what a name means
exactly if the other finds that very reference. -/
theorem tracks_answer_iff_followed (workspace : Workspace) (path : Option String)
    (branch remote : String) (repository : Repository) (view : BranchView)
    (hopen : workspace.openRepository path = .ok repository)
    (hview : repository.branchView = .ok view)
    (hdistinct : (view.refs.map fun ref => ref.name.complete).Nodup) :
    ((TracksRequest.answer ⟨branch, remote, path⟩ workspace = .error (.branchNotFound branch) ∧
        FollowedRequest.answer ⟨some branch, path⟩ workspace = .error (.branchNotFound branch)) ∨
      ∃ verdict answer,
        TracksRequest.answer ⟨branch, remote, path⟩ workspace = .ok verdict ∧
        FollowedRequest.answer ⟨some branch, path⟩ workspace = .ok answer ∧
        (verdict = true ↔ ∃ found, answer.followed = some found ∧ found.name.isRemote ∧
          findRef? view.refs remote remotesDirectory = some found)) ∧
    ((∃ answer found, FollowedRequest.answer ⟨some branch, path⟩ workspace = .ok answer ∧
        answer.followed = some found) ↔
      ∃ other, TracksRequest.answer ⟨branch, other, path⟩ workspace = .ok true) := by
  have htracks : ∀ other, TracksRequest.answer ⟨branch, other, path⟩ workspace =
      view.tracks branch other := fun other => TracksRequest.answer_eq hopen hview
  simp only [htracks, FollowedRequest.answer_eq branch hopen hview]
  rcases view.localBranch_cases branch with ⟨ref, href⟩ | herror
  · simp only [BranchView.tracks_of_ok href, href, Except.map, Except.ok.injEq]
    refine ⟨Or.inr ⟨_, _, rfl, rfl, BranchView.any_tracks_iff hdistinct ref.name remote⟩, ?_⟩
    rw [← BranchView.exists_findTracked?_iff hdistinct ref.name]
    constructor
    · rintro ⟨answer, found, rfl, hfollowed⟩
      exact ⟨found, hfollowed⟩
    · intro h
      obtain ⟨found, hfollowed⟩ := h
      exact ⟨_, found, rfl, hfollowed⟩
  · simp [BranchView.tracks_of_error herror, herror, Except.map]

theorem tracks_answer_iff_followed_sample :
    Workspace.sample.openRepository none = .ok .sample ∧
      Repository.sample.branchView = .ok .sample ∧
      (BranchView.sample.refs.map fun ref => ref.name.complete).Nodup ∧
      ∃ other, TracksRequest.answer ⟨"main", other, none⟩ .sample = .ok true := by
  have hopen : Workspace.sample.openRepository none = .ok .sample := rfl
  have hdistinct : (BranchView.sample.refs.map fun ref => ref.name.complete).Nodup := by decide
  obtain ⟨-, hfound⟩ := tracks_answer_iff_followed .sample none "main" "team/core/main" .sample
    .sample hopen Repository.branchView_sample hdistinct
  have hfollowed := FollowedRequest.answer_eq "main" hopen Repository.branchView_sample
  have hlocal : BranchView.sample.localBranch "main" =
      .ok ⟨.head "main", .repeated 1⟩ := by decide +kernel
  rw [hlocal] at hfollowed
  exact ⟨hopen, Repository.branchView_sample, hdistinct, hfound.mp ⟨_, _, hfollowed, rfl⟩⟩

end CommitHeader
