import CommitHeader.Proofs.Command.PrintedName

/-!
# The branch that is checked out

Asked about no branch in particular, the command takes the short name of the one that is checked out
and searches for it as if it had been given. The search prefers a complete name. So the branch that
is checked out is found unless another listed branch has that short name as its complete name; this
takes a local branch whose own name begins with `refs/`.
-/

namespace CommitHeader

/-! ## Following references -/

theorem RefTable.lookup_of_follow {refs : RefTable} {name complete : String} {hops : Nat}
    {id : ObjectId} (h : refs.follow name hops = .object complete id) :
    List.lookup complete refs = some (.direct id) := by
  induction hops generalizing name with
  | zero =>
      unfold follow at h
      split at h
      · cases h
      · rename_i target hlookup
        cases h
        exact hlookup
      · cases h
  | succ hops ih =>
      unfold follow at h
      split at h
      · cases h
      · rename_i target hlookup
        cases h
        exact hlookup
      · exact ih h

namespace Repository

theorem mem_refs_of_resolveHead {repository : Repository} {short : String} {id : ObjectId}
    (h : repository.resolveHead = .object (headsDirectory ++ short) id) :
    (headsDirectory ++ short, .direct id) ∈ repository.refs := by
  have hname : headsDirectory ++ short ≠ "HEAD" := RefName.heads_append_ne (by decide) short
  unfold resolveHead at h
  split at h
  · obtain ⟨hhead, -⟩ := RefEnd.object.inj h
    exact absurd hhead.symm hname
  · have hlookup := RefTable.lookup_of_follow h
    obtain ⟨before, after, hrefs, -⟩ := List.lookup_eq_some_iff.mp hlookup
    have hmem : (headsDirectory ++ short, RefTarget.direct id) ∈ repository.references := by
      rw [hrefs]
      simp
    rcases List.mem_cons.mp hmem with hhead | hmem
    · exact absurd (congrArg Prod.fst hhead) hname
    · exact hmem

theorem checkedOut_of_resolveHead {repository : Repository} {short : String} {id : ObjectId}
    (h : repository.resolveHead = .object (headsDirectory ++ short) id) :
    repository.checkedOut = .ok short := by
  rw [checkedOut, h]
  dsimp only [RefEnd.object?]
  rw [Text.afterLead?_append]

theorem head_mem_refs {repository : Repository} {view : BranchView} {short : String}
    {id : ObjectId} (hview : repository.branchView = .ok view)
    (hmem : (headsDirectory ++ short, .direct id) ∈ repository.refs) :
    ⟨.head short, id⟩ ∈ view.refs := by
  obtain ⟨_, _, hrefs, _⟩ := branchView_eq_ok hview
  have hheads : isBelow headsDirectory (headsDirectory ++ short) = true := by
    rw [isBelow, Text.afterLead?_append]
    rfl
  have hremotes : isBelow remotesDirectory (headsDirectory ++ short) = false := by
    rw [isBelow, RefName.afterLead?_remotes_heads]
    rfl
  have hbranch : (headsDirectory ++ short, .direct id) ∈ repository.branchRefs := by
    rw [branchRefs, List.mem_mergeSort, List.mem_filter, hheads, Bool.true_or]
    exact ⟨hmem, rfl⟩
  refine mem_of_ref?_eq_some hrefs (List.mem_map.mpr ⟨_, hbranch, rfl⟩) ?_
  simp only [BranchEntry.ref?, BranchEntry.name, hremotes, RefName.ofComplete_heads]
  rfl

end Repository

/-! ## The command without a branch -/

/-- The command without a branch is the one with the short name of the branch that is checked
out. -/
theorem FollowedRequest.answer_none {workspace : Workspace} {path : Option String}
    {repository : Repository} {short : String}
    (hopen : workspace.openRepository path = .ok repository)
    (hcheckedOut : repository.checkedOut = .ok short) :
    FollowedRequest.answer ⟨none, path⟩ workspace =
      FollowedRequest.answer ⟨some short, path⟩ workspace := by
  unfold answer
  simp only [bind, Except.bind, hopen, hcheckedOut]
  rfl

namespace BranchView

/-- A name that a listed branch has as its complete name means a branch of that name. -/
theorem localBranch_of_complete {repository : Repository} {view : BranchView}
    (hview : repository.branchView = .ok view) {name : String} {ref : Ref} (href : ref ∈ view.refs)
    (hname : ref.name.complete = name) :
    (ref.name.isHead = true ∧
        ∃ first, view.localBranch name = .ok first ∧ first.name = ref.name) ∨
      (ref.name.isHead = false ∧ view.localBranch name = .error (.branchNotFound name)) := by
  obtain ⟨first, hfirst, hfind, hcomplete⟩ := exists_findRef?_of_complete href hname headsDirectory
  have hsame : first.name = ref.name :=
    Repository.name_eq_of_complete_eq hview hfirst href (hcomplete.trans hname.symm)
  rw [localBranch, hfind, ← hsame]
  cases hhead : first.name.isHead with
  | true => exact Or.inl ⟨rfl, first, by simp [Option.filter, hhead], rfl⟩
  | false => exact Or.inr ⟨rfl, by simp [Option.filter, hhead]⟩

/-- A short name that no listed branch has as its complete name means the branch that it is short
for. -/
theorem localBranch_of_forall_ne {repository : Repository} {view : BranchView}
    (hview : repository.branchView = .ok view) {short : String} {id : ObjectId}
    (hmem : ⟨.head short, id⟩ ∈ view.refs) (h : ∀ ref ∈ view.refs, ref.name.complete ≠ short) :
    ∃ first, first.name = .head short ∧ view.localBranch short = .ok first ∧
      view.localBranch (headsDirectory ++ short) = .ok first := by
  cases hfind : view.refs.find? (fun ref => ref.name.complete = headsDirectory ++ short) with
  | none => exact absurd (by simp [RefName.complete]) (List.find?_eq_none.mp hfind _ hmem)
  | some first =>
      have hcomplete : first.name.complete = headsDirectory ++ short := by
        simpa using List.find?_some hfind
      have hname : first.name = .head short :=
        Repository.name_eq_of_complete_eq hview (List.mem_of_find?_eq_some hfind) hmem hcomplete
      have hhead : first.name.isHead = true := by
        rw [hname]
        rfl
      refine ⟨first, hname, ?_, ?_⟩
      · rw [localBranch, findRef?_of_forall_ne h, hfind, Option.filter_some, if_pos hhead]
      · rw [localBranch, findRef?, hfind, Option.filter_some, if_pos hhead]

end BranchView

/-- With no branch given, the answer is that for the complete name of the branch that is checked
out, unless its short name is the complete name of another listed branch. Then the answer is about
that one, or there is none if it is no local branch. -/
theorem checked_out_branch_is_reported (workspace : Workspace) (path : Option String)
    (repository : Repository) (view : BranchView) (short : String) (id : ObjectId)
    (hopen : workspace.openRepository path = .ok repository)
    (hview : repository.branchView = .ok view)
    (hhead : repository.resolveHead = .object ("refs/heads/" ++ short) id) :
    ((∀ ref ∈ view.refs, ref.name.complete ≠ short) →
      (∃ answer, FollowedRequest.answer ⟨none, path⟩ workspace = .ok answer ∧
        answer.branch.name.isHead ∧ answer.branch.name.complete = "refs/heads/" ++ short) ∧
      FollowedRequest.answer ⟨none, path⟩ workspace =
        FollowedRequest.answer ⟨some ("refs/heads/" ++ short), path⟩ workspace) ∧
    ∀ ref ∈ view.refs, ref.name.complete = short →
      (∃ rest, short = "refs/" ++ rest) ∧
      (ref.name.isHead → ∃ answer, FollowedRequest.answer ⟨none, path⟩ workspace = .ok answer ∧
        answer.branch.name = ref.name ∧ answer.branch.name.complete ≠ "refs/heads/" ++ short) ∧
      (¬ ref.name.isHead →
        FollowedRequest.answer ⟨none, path⟩ workspace = .error (.branchNotFound short)) := by
  have hnone : FollowedRequest.answer ⟨none, path⟩ workspace =
      FollowedRequest.answer ⟨some short, path⟩ workspace :=
    FollowedRequest.answer_none hopen (Repository.checkedOut_of_resolveHead hhead)
  have hlisted : ⟨.head short, id⟩ ∈ view.refs :=
    Repository.head_mem_refs hview (Repository.mem_refs_of_resolveHead hhead)
  rw [hnone, FollowedRequest.answer_eq short hopen hview,
    FollowedRequest.answer_eq ("refs/heads/" ++ short) hopen hview]
  refine ⟨?_, ?_⟩
  · intro hfree
    obtain ⟨first, hname, hshort, hcomplete⟩ :=
      BranchView.localBranch_of_forall_ne hview hlisted hfree
    have hfull : view.localBranch ("refs/heads/" ++ short) = .ok first := hcomplete
    have hhead : first.name.isHead ∧ first.name.complete = "refs/heads/" ++ short := by
      rw [hname]
      exact ⟨rfl, rfl⟩
    rw [hshort, hfull]
    exact ⟨⟨_, rfl, hhead⟩, rfl⟩
  · intro ref href hname
    obtain ⟨rest, hrest⟩ := Repository.exists_complete_eq hview href
    refine ⟨⟨rest, hname.symm.trans hrest⟩, ?_⟩
    rcases BranchView.localBranch_of_complete hview href hname with
      ⟨hkind, first, hfirst, hsame⟩ | ⟨hkind, herror⟩
    · refine ⟨fun _ => ?_, fun hnot => absurd hkind hnot⟩
      -- The name that is reported is only the end of the one that is checked out.
      have hother : first.name.complete ≠ "refs/heads/" ++ short := by
        rw [hsame, hname]
        exact RefName.ne_heads_append short
      rw [hfirst]
      exact ⟨_, rfl, hsame, hother⟩
    · refine ⟨fun hhead => absurd (hhead.symm.trans hkind) (by decide), fun _ => ?_⟩
      rw [herror]
      rfl

theorem checked_out_branch_is_reported_sample :
    Workspace.sample.openRepository none = .ok .sample ∧
      Repository.sample.branchView = .ok .sample ∧
      Repository.sample.resolveHead = .object ("refs/heads/" ++ "main") (.repeated 1) ∧
      (∀ ref ∈ BranchView.sample.refs, ref.name.complete ≠ "main") ∧
      FollowedRequest.answer ⟨none, none⟩ .sample =
        FollowedRequest.answer ⟨some "refs/heads/main", none⟩ .sample := by
  have hopen : Workspace.sample.openRepository none = .ok .sample := rfl
  have hhead : Repository.sample.resolveHead = .object ("refs/heads/" ++ "main") (.repeated 1) := by
    cbv
  have hfree : ∀ ref ∈ BranchView.sample.refs, ref.name.complete ≠ "main" := by decide
  obtain ⟨hfound, -⟩ := checked_out_branch_is_reported .sample none .sample .sample "main" _ hopen
    Repository.branchView_sample hhead
  exact ⟨hopen, Repository.branchView_sample, hhead, hfree, (hfound hfree).2⟩

/-- A repository one of whose branches bears the complete name of another one as its short name, and
another the complete name of a remote-tracking branch. -/
def Repository.nested : Repository where
  refs := [("refs/heads/main", .direct (.repeated 1)),
    ("refs/heads/refs/heads/main", .direct (.repeated 2)),
    ("refs/heads/refs/remotes/origin/main", .direct (.repeated 3)),
    ("refs/remotes/origin/main", .direct (.repeated 4))]
  head := .symbolic "refs/heads/refs/heads/main"

/-- With the first of them checked out, the answer is about the other branch; with the second, there
is none. -/
theorem nested_branch_is_not_reported :
    let elsewhere := { Repository.nested with
      head := .symbolic "refs/heads/refs/remotes/origin/main" }
    Repository.nested.resolveHead = .object "refs/heads/refs/heads/main" (.repeated 2) ∧
      (Repository.nested.branchView.map fun view => view.refs.length) = .ok 4 ∧
      ((FollowedRequest.answer ⟨none, none⟩
          { Workspace.sample with repository := .nested }).map fun answer =>
        answer.branch.name.complete) = .ok "refs/heads/main" ∧
      elsewhere.resolveHead = .object "refs/heads/refs/remotes/origin/main" (.repeated 3) ∧
      FollowedRequest.answer ⟨none, none⟩ { Workspace.sample with repository := elsewhere } =
        .error (.branchNotFound "refs/remotes/origin/main") := by
  refine ⟨?_, ?_, ?_, ?_, ?_⟩ <;> cbv

end CommitHeader
