import CommitHeader.Command
import CommitHeader.Proofs.Command.Branches

/-!
# The printed name of a branch

The branch that another one follows is printed by its remote and its own name, with a slash between
them. Read again, this name means that branch unless some listed branch bears it as its complete
name; then it means the latter, which is not followed.
-/

namespace CommitHeader

/-- The name that a remote-tracking branch is printed by. -/
def Ref.printedName (ref : Ref) : String :=
  ref.name.remoteName ++ "/" ++ ref.name.short

theorem Ref.complete_eq_printedName {ref : Ref} (h : ref.name.isRemote) :
    ref.name.complete = remotesDirectory ++ ref.printedName := by
  rw [RefName.eq_tracking_of_isRemote h, printedName]
  simp only [RefName.complete, String.append_assoc]

/-- Only a remote whose name begins as every complete name does can be part of one. -/
theorem remote_of_append_slash {remote short rest : String}
    (h : remote ++ "/" ++ short = "refs/" ++ rest) :
    remote = "refs" ∨ ∃ tail, remote = "refs/" ++ tail := by
  have hchars : remote.toList ++ '/' :: short.toList =
      ['r', 'e', 'f', 's'] ++ '/' :: rest.toList := by
    simpa using congrArg String.toList h
  rcases List.append_eq_append_iff.mp hchars with ⟨gap, hrefs, hgap⟩ | ⟨gap, hremote, hgap⟩
  · cases gap with
    | nil =>
        left
        apply String.ext
        simpa using hrefs.symm
    | cons c gap =>
        -- The slash would be a letter of the first part.
        obtain ⟨rfl, -⟩ := List.cons.inj hgap
        have hslash : '/' ∈ ['r', 'e', 'f', 's'] := by
          rw [hrefs]
          simp
        exact absurd hslash (by decide)
  · cases gap with
    | nil =>
        left
        apply String.ext
        simpa using hremote
    | cons c gap =>
        obtain ⟨rfl, -⟩ := List.cons.inj hgap
        right
        refine ⟨String.ofList gap, ?_⟩
        apply String.ext
        simpa using hremote

namespace Repository

theorem exists_branchRef {repository : Repository} {view : BranchView} {ref : Ref}
    (h : repository.branchView = .ok view) (href : ref ∈ view.refs) :
    ∃ target, (ref.name.complete, target) ∈ repository.branchRefs := by
  obtain ⟨_, _, hrefs, _⟩ := branchView_eq_ok h
  have hcomplete := (map_complete_sublist hrefs).subset (List.mem_map_of_mem href)
  rw [filterMap_complete_branches] at hcomplete
  obtain ⟨⟨name, target⟩, hmem, rfl⟩ := List.mem_map.mp hcomplete
  exact ⟨target, hmem⟩

/-- All branches lie in one of two directories. -/
theorem exists_complete_eq {repository : Repository} {view : BranchView} {ref : Ref}
    (h : repository.branchView = .ok view) (href : ref ∈ view.refs) :
    ∃ rest, ref.name.complete = "refs/" ++ rest := by
  obtain ⟨target, hmem⟩ := exists_branchRef h href
  rw [branchRefs, List.mem_mergeSort, List.mem_filter, Bool.or_eq_true] at hmem
  rcases hmem.2 with hheads | hremotes
  · obtain ⟨rest, hrest⟩ := Option.isSome_iff_exists.mp hheads
    refine ⟨"heads/" ++ rest, ?_⟩
    rw [← String.append_assoc]
    exact Text.afterLead?_eq_some_iff.mp hrest
  · obtain ⟨rest, hrest⟩ := Option.isSome_iff_exists.mp hremotes
    refine ⟨"remotes/" ++ rest, ?_⟩
    rw [← String.append_assoc]
    exact Text.afterLead?_eq_some_iff.mp hrest

/-- A complete name is read in the same way wherever it stands. -/
theorem name_eq_of_complete_eq {repository : Repository} {view : BranchView} {first second : Ref}
    (h : repository.branchView = .ok view) (hfirst : first ∈ view.refs)
    (hsecond : second ∈ view.refs) (hcomplete : first.name.complete = second.name.complete) :
    first.name = second.name := by
  obtain ⟨_, _, hrefs, _⟩ := branchView_eq_ok h
  obtain ⟨entry, hentry, hof⟩ := exists_entry_of_mem hrefs hfirst
  obtain ⟨other, hother, hofOther⟩ := exists_entry_of_mem hrefs hsecond
  obtain ⟨hname, -, hread⟩ := BranchEntry.ref?_eq_some hof
  obtain ⟨hotherName, -, hotherRead⟩ := BranchEntry.ref?_eq_some hofOther
  obtain ⟨⟨_, _⟩, -, rfl⟩ := List.mem_map.mp hentry
  obtain ⟨⟨_, _⟩, -, rfl⟩ := List.mem_map.mp hother
  obtain rfl := Option.some.inj hname
  obtain rfl := Option.some.inj hotherName
  rw [← hcomplete] at hotherRead
  exact Except.ok.inj (hread.symm.trans hotherRead)

end Repository

namespace BranchView

theorem of_findTracked?_eq_some {view : BranchView} {name : RefName} {found : Ref}
    (h : findTracked? view.config name (view.refs.filter fun other => other.name.isRemote) =
      some found) :
    found ∈ view.refs ∧ name.tracks view.config found.name = true := by
  have hmem := List.mem_filter.mp (List.mem_of_find?_eq_some h)
  exact ⟨hmem.1, by simpa using List.find?_some h⟩

/-- A name that no branch bears in full means what it means within the directory. -/
theorem findRef?_of_forall_ne {refs : List Ref} {name : String}
    (h : ∀ ref ∈ refs, ref.name.complete ≠ name) (directory : String) :
    findRef? refs name directory =
      refs.find? fun ref => ref.name.complete = directory ++ name := by
  have hnone : refs.find? (fun ref => ref.name.complete = name) = none := by
    rw [List.find?_eq_none]
    simpa using h
  rw [findRef?, hnone]

theorem exists_findRef?_of_complete {refs : List Ref} {name : String} {ref : Ref}
    (href : ref ∈ refs) (hname : ref.name.complete = name) (directory : String) :
    ∃ first ∈ refs, findRef? refs name directory = some first ∧ first.name.complete = name := by
  cases hfind : refs.find? (fun ref => ref.name.complete = name) with
  | none => exact absurd hname (by simpa using List.find?_eq_none.mp hfind ref href)
  | some first =>
      refine ⟨first, List.mem_of_find?_eq_some hfind, ?_, by simpa using List.find?_some hfind⟩
      rw [findRef?, hfind]

/-- What the printed name of the branch that is followed means. -/
theorem any_tracks_printedName_iff {repository : Repository} {view : BranchView}
    (hview : repository.branchView = .ok view) {name : RefName} {found : Ref}
    (hmem : found ∈ view.refs) (htracks : name.tracks view.config found.name = true) :
    (findRef? view.refs found.printedName remotesDirectory).any
        (fun candidate => name.tracks view.config candidate.name) = true ↔
      ∀ ref ∈ view.refs, ref.name.complete ≠ found.printedName := by
  have hcomplete := Ref.complete_eq_printedName (RefName.isRemote_of_tracks htracks)
  constructor
  · intro h ref href hname
    obtain ⟨first, -, hfind, hfirst⟩ := exists_findRef?_of_complete href hname remotesDirectory
    rw [hfind, Option.any_some] at h
    -- Both are followed, so they are one branch, whose name would be longer than itself.
    have hsame := RefName.eq_of_tracks h htracks
    rw [hsame, hcomplete] at hfirst
    have hlength := congrArg (fun name => name.toList.length) hfirst
    simp [remotesDirectory] at hlength
    omega
  · intro h
    rw [findRef?_of_forall_ne h]
    cases hfind : view.refs.find? (fun ref =>
        ref.name.complete = remotesDirectory ++ found.printedName) with
    | none => exact absurd hcomplete (by simpa using List.find?_eq_none.mp hfind found hmem)
    | some first =>
        have hfirst : first.name.complete = remotesDirectory ++ found.printedName := by
          simpa using List.find?_some hfind
        have hsame := Repository.name_eq_of_complete_eq hview (List.mem_of_find?_eq_some hfind)
          hmem (hfirst.trans hcomplete.symm)
        rw [Option.any_some, hsame]
        exact htracks

end BranchView

/-- The name that one command prints is what the other one says to be followed, unless a listed
branch has it as its complete name: then that one is meant, and it is not followed. This takes a
remote called `refs`, or one in a directory of that name. -/
theorem printed_name_is_followed (workspace : Workspace) (path : Option String) (branch : String)
    (repository : Repository) (view : BranchView) (answer : FollowedAnswer) (found : Ref)
    (hopen : workspace.openRepository path = .ok repository)
    (hview : repository.branchView = .ok view)
    (hanswer : FollowedRequest.answer ⟨some branch, path⟩ workspace = .ok answer)
    (hfound : answer.followed = some found) :
    (CommandRequest.followed ⟨some branch, path⟩).run workspace =
      ⟨Terminal.refName found.printedName ++ " " ++ Terminal.commitId found.target.short ++ "\n",
        .ok 0⟩ ∧
    (TracksRequest.answer ⟨branch, found.printedName, path⟩ workspace = .ok true ↔
      ∀ ref ∈ view.refs, ref.name.complete ≠ found.printedName) ∧
    (TracksRequest.answer ⟨branch, found.printedName, path⟩ workspace = .ok false ↔
      ∃ ref ∈ view.refs, ref.name.complete = found.printedName) ∧
    ((∃ ref ∈ view.refs, ref.name.complete = found.printedName) →
      found.name.remoteName = "refs" ∨ ∃ tail, found.name.remoteName = "refs/" ++ tail) := by
  have hrun : (CommandRequest.followed ⟨some branch, path⟩).run workspace =
      ⟨answer.text, .ok (if answer.followed.isSome then 0 else 1)⟩ := by
    rw [CommandRequest.run, hanswer]
  have htext : answer.text = Terminal.refName found.printedName ++ " " ++
      Terminal.commitId found.target.short ++ "\n" := by
    rw [FollowedAnswer.text, hfound]
    rfl
  rw [FollowedRequest.answer_eq branch hopen hview] at hanswer
  rcases view.localBranch_cases branch with ⟨ref, href⟩ | herror
  · rw [href] at hanswer
    obtain rfl := Except.ok.inj hanswer
    obtain ⟨hmem, htracks⟩ := BranchView.of_findTracked?_eq_some hfound
    have hmeans := BranchView.any_tracks_printedName_iff hview hmem htracks
    rw [TracksRequest.answer_eq hopen hview, BranchView.tracks_of_ok href]
    refine ⟨?_, ?_, ?_, ?_⟩
    · rw [hrun, htext, hfound]
      rfl
    · rw [← hmeans, Except.ok.injEq]
    · rw [Except.ok.injEq, ← Bool.not_eq_true, hmeans]
      push Not
      rfl
    · rintro ⟨other, hother, hname⟩
      obtain ⟨rest, hrest⟩ := Repository.exists_complete_eq hview hother
      exact remote_of_append_slash (hname.symm.trans hrest)
  · rw [herror] at hanswer
    cases hanswer

theorem printed_name_is_followed_sample :
    Workspace.sample.openRepository none = .ok .sample ∧
      Repository.sample.branchView = .ok .sample ∧
      TracksRequest.answer ⟨"main", "team/core/main", none⟩ .sample = .ok true := by
  have hopen : Workspace.sample.openRepository none = .ok .sample := rfl
  have hlocal : BranchView.sample.localBranch "main" = .ok ⟨.head "main", .repeated 1⟩ := by
    decide +kernel
  have hanswer := FollowedRequest.answer_eq "main" hopen Repository.branchView_sample
  rw [hlocal] at hanswer
  obtain ⟨-, htracks, -⟩ := printed_name_is_followed .sample none "main" .sample .sample _
    ⟨.tracking "team/core" "main", .repeated 2⟩ hopen Repository.branchView_sample hanswer
    (by decide +kernel)
  exact ⟨hopen, Repository.branchView_sample, htracks.mpr (by decide)⟩

/-- A repository with a remote called `refs`, one of whose branches is printed by the complete name
of a local branch. -/
def Repository.shadowed : Repository where
  refs := [("refs/heads/main", .direct (.repeated 1)),
    ("refs/heads/topic", .direct (.repeated 2)),
    ("refs/remotes/refs/heads/topic", .direct (.repeated 3))]
  config := [("remote.refs.url", "x"),
    ("remote.refs.fetch", "+refs/heads/*:refs/remotes/refs/*"),
    ("branch.main.remote", "refs"), ("branch.main.merge", "refs/heads/heads/topic")]

/-- The name that is printed means the local branch, which is not followed. -/
theorem printed_name_is_not_followed :
    let workspace := { Workspace.sample with repository := .shadowed }
    (CommandRequest.followed ⟨some "main", none⟩).run workspace =
        ⟨Terminal.refName "refs/heads/topic" ++ " " ++ Terminal.commitId "03030303" ++ "\n",
          .ok 0⟩ ∧
      TracksRequest.answer ⟨"main", "refs/heads/topic", none⟩ workspace = .ok false := by
  refine ⟨?_, ?_⟩ <;> cbv

end CommitHeader
