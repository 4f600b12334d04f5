import CommitHeader.Proofs.Command.Followed
import CommitHeader.Proofs.Command.PrintedName

/-!
# Colours

Every colour starts and ends with an escape. The answer to a question about branches has as many as
its form takes, in every colour mode; names and configured values add none if they have none.
-/

namespace CommitHeader

/-! ## Escapes in a text -/

namespace Terminal

/-- The character that begins a control sequence. -/
def escape : Char := '\x1b'

/-- The number of escapes in a text. -/
def escapes (text : String) : Nat :=
  text.toList.count escape

@[simp] theorem escapes_append (first second : String) :
    escapes (first ++ second) = escapes first + escapes second := by
  rw [escapes, String.toList_append, List.count_append]
  rfl

theorem escapes_toString (n : Nat) : escapes (toString n) = 0 := by
  refine List.count_eq_zero.mpr fun h => ?_
  rw [Nat.toString_eq_repr, Nat.toList_repr] at h
  exact absurd (Nat.isDigit_of_mem_toDigits (by decide) (by decide) h) (by decide)

@[simp] theorem escapes_rendition (code : Nat) : escapes (rendition code) = 1 := by
  rw [rendition, escapes_append, escapes_append, escapes_toString]
  rfl

@[simp] theorem escapes_coloured (code : Nat) (text : String) :
    escapes (coloured code text) = escapes text + 2 := by
  simp only [coloured, escapes_append, escapes_rendition]
  omega

@[simp] theorem escapes_bold (text : String) : escapes (bold text) = escapes text + 2 := by
  simp only [bold, escapes_append, escapes_rendition]
  omega

@[simp] theorem escapes_refName (name : String) : escapes (refName name) = escapes name + 4 := by
  simp [refName]

@[simp] theorem escapes_commitId (id : String) : escapes (commitId id) = escapes id + 2 := by
  simp [commitId]

@[simp] theorem escapes_line (notice : Notice) (message : String) :
    escapes (notice.line message) = escapes message + 4 := by
  have hmark : escapes notice.mark = 0 := by
    cases notice <;> rfl
  have hspace : escapes " " = 0 := rfl
  have hend : escapes "\n" = 0 := rfl
  simp only [Notice.line, escapes_append, escapes_bold, escapes_coloured, hmark, hspace, hend]
  omega

theorem escapes_short (id : ObjectId) : escapes id.short = 0 :=
  List.count_eq_zero.mpr (ObjectId.not_mem_short (by decide) id)

end Terminal

open Terminal (escapes)

theorem RefName.escapes_le_complete (name : RefName) :
    escapes name.remoteName + escapes name.short ≤ escapes name.complete := by
  have hempty : escapes "" = 0 := rfl
  cases name <;>
    simp only [remoteName, remote?, short, complete, Option.getD_some, Option.getD_none,
      Terminal.escapes_append, hempty] <;>
    omega

/-! ## Escapes in a repository -/

/-- The names of references hold no escape, and neither do the values that say what the local
branches follow. -/
structure Repository.IsEscapeFree (repository : Repository) : Prop where
  refs : ∀ ref ∈ repository.refs, escapes ref.1 = 0
  followed : ∀ name ∈ repository.localBranches, ∀ key ∈ [mergeKey name, remoteKey name],
    ∀ value, repository.config.value? key = some value → escapes value = 0

namespace Repository.IsEscapeFree

variable {repository : Repository} {view : BranchView} {ref : Ref}

theorem escapes_name (h : repository.IsEscapeFree) (hview : repository.branchView = .ok view)
    (href : ref ∈ view.refs) :
    escapes ref.name.remoteName = 0 ∧ escapes ref.name.short = 0 := by
  obtain ⟨target, hmem⟩ := exists_branchRef hview href
  rw [branchRefs, List.mem_mergeSort] at hmem
  have hcomplete : escapes ref.name.complete = 0 := h.refs _ (List.mem_of_mem_filter hmem)
  have hparts := ref.name.escapes_le_complete
  omega

theorem escapes_config (h : repository.IsEscapeFree) (hview : repository.branchView = .ok view)
    (href : ref ∈ view.refs) (hhead : ref.name.isHead) {key : String}
    (hkey : key = mergeKey ref.name.short ∨ key = remoteKey ref.name.short) :
    escapes (view.config key) = 0 := by
  rw [config_eq_getD hview href hhead hkey]
  cases hvalue : repository.config.value? key with
  | none => rfl
  | some value =>
      exact h.followed _ (short_mem_localBranches hview href hhead) key (by simpa using hkey) value
        hvalue

theorem escapes_mergesWith (h : repository.IsEscapeFree) (hview : repository.branchView = .ok view)
    (href : ref ∈ view.refs) (hhead : ref.name.isHead) :
    escapes (ref.name.mergesWith view.config) = 0 := by
  have hmerged := h.escapes_config hview href hhead (Or.inl rfl)
  unfold RefName.mergesWith
  dsimp only
  cases hrest : Text.afterLead? headsDirectory (view.config (mergeKey ref.name.short)) with
  | none => exact hmerged
  | some rest =>
      rw [Text.afterLead?_eq_some_iff.mp hrest, Terminal.escapes_append] at hmerged
      exact Nat.eq_zero_of_add_eq_zero_left hmerged

end Repository.IsEscapeFree

/-! ## Escapes in an answer -/

theorem TracksRequest.escapes_text (request : TracksRequest) (tracks : Bool) :
    escapes (request.text tracks) = escapes request.branch + escapes request.remote + 12 := by
  have htracks : escapes " tracks " = 0 := rfl
  have hnot : escapes " does not track " = 0 := rfl
  unfold text
  cases tracks <;>
    simp only [Bool.false_eq_true, if_false, if_true, Terminal.escapes_line,
      Terminal.escapes_append, Terminal.escapes_refName, htracks, hnot] <;>
    omega

theorem FollowedAnswer.escapes_text {request : FollowedRequest} {workspace : Workspace}
    {answer : FollowedAnswer} (hrepository : workspace.repository.IsEscapeFree)
    (h : request.answer workspace = .ok answer) :
    escapes answer.text = if answer.followed.isSome then 6 else 4 := by
  obtain ⟨view, hview, hconfig, hbranch, hhead, hfollowed⟩ := FollowedRequest.exists_view h
  have hslash : escapes "/" = 0 := rfl
  have hname := (hrepository.escapes_name hview hbranch).2
  unfold text
  dsimp only
  cases hfound : answer.followed with
  | some found =>
      have hspace : escapes " " = 0 := rfl
      have hend : escapes "\n" = 0 := rfl
      have hmem := (BranchView.of_findTracked?_eq_some (hfollowed.symm.trans hfound)).1
      obtain ⟨hremote, hshort⟩ := hrepository.escapes_name hview hmem
      simp [hremote, hshort, Terminal.escapes_short, hslash, hspace, hend]
  | none =>
      have hmerged := hrepository.escapes_mergesWith hview hbranch hhead
      have hremote : escapes (answer.branch.name.tracksRemote view.config) = 0 :=
        hrepository.escapes_config hview hbranch hhead (Or.inr rfl)
      have hnothing : escapes " has no upstream configured" = 0 := rfl
      have hconfigured : escapes " is configured to track " = 0 := rfl
      have hmissing : escapes ", but no such remote-tracking branch exists" = 0 := rfl
      dsimp only
      rw [hconfig, Terminal.escapes_line]
      split
      · simp [hname, hnothing]
      · simp [hname, hmerged, hremote, hslash, hconfigured, hmissing]

namespace CommandRequest

theorem output_of_failed {request : CommandRequest} {workspace : Workspace} {cause : Failure}
    (h : (request.run workspace).status = .error cause) : (request.run workspace).output = "" := by
  unfold run at h ⊢
  split at h <;> split at h
  all_goals first
    | rfl
    | cases h

theorem escapes_tracks {request : TracksRequest} {workspace : Workspace} {status : Nat}
    (h : ((tracks request).run workspace).status = .ok status) :
    escapes ((tracks request).run workspace).output =
      escapes request.branch + escapes request.remote + 12 := by
  cases hanswer : request.answer workspace with
  | error cause =>
      rw [run, hanswer] at h
      cases h
  | ok verdict =>
      rw [run, hanswer]
      exact request.escapes_text verdict

theorem escapes_followed {request : FollowedRequest} {workspace : Workspace} {status : Nat}
    (hrepository : workspace.repository.IsEscapeFree)
    (h : ((followed request).run workspace).status = .ok status) :
    escapes ((followed request).run workspace).output = if status = 0 then 6 else 4 := by
  cases hanswer : request.answer workspace with
  | error cause =>
      rw [run, hanswer] at h
      cases h
  | ok answer =>
      rw [run, hanswer] at h ⊢
      cases h
      have htext := FollowedAnswer.escapes_text hrepository hanswer
      cases hfollowed : answer.followed with
      | none => simpa [hfollowed] using htext
      | some found => simpa [hfollowed] using htext

end CommandRequest

/-- A command prints the same in every colour mode, and nothing if it fails. Otherwise the answer
whether a branch follows another one has twelve escapes; the name of the branch that is followed has
six, and the warning that there is none has four. -/
theorem colours_in_every_mode (words : List String) (invocation : Invocation)
    (workspace : Workspace) (hwords : Invocation.ofWords words = .ok invocation)
    (hplain : ∀ word ∈ words, escapes word = 0) (hrepository : workspace.repository.IsEscapeFree) :
    (∀ mode, { invocation with colours := mode }.run workspace = invocation.run workspace) ∧
    (∀ cause, (invocation.run workspace).status = .error cause →
      (invocation.run workspace).output = "") ∧
    (∀ request status, invocation.request = .tracks request →
      (invocation.run workspace).status = .ok status →
        escapes (invocation.run workspace).output = 12) ∧
    ∀ request status, invocation.request = .followed request →
      (invocation.run workspace).status = .ok status →
        escapes (invocation.run workspace).output = if status = 0 then 6 else 4 := by
  refine ⟨fun mode => rfl, fun cause => CommandRequest.output_of_failed, ?_, ?_⟩
  · intro request status hrequest hstatus
    have hnames := Invocation.names_sublist_of_ofWords hwords hrequest
    have hbranch := hplain request.branch (hnames.subset (by simp))
    have hremote := hplain request.remote (hnames.subset (by simp))
    rw [Invocation.run, hrequest] at hstatus ⊢
    rw [CommandRequest.escapes_tracks hstatus, hbranch, hremote]
  · intro request status hrequest hstatus
    rw [Invocation.run, hrequest] at hstatus ⊢
    exact CommandRequest.escapes_followed hrepository hstatus

theorem Repository.isEscapeFree_sample : Repository.sample.IsEscapeFree := by
  have hbranches : Repository.sample.localBranches = ["main"] := by cbv
  have hmerged : Repository.sample.config.value? (mergeKey "main") = some "refs/heads/main" := by
    cbv
  have hremote : Repository.sample.config.value? (remoteKey "main") = some "team/core" := by cbv
  refine ⟨by decide, ?_⟩
  intro name hname key hkey value hvalue
  rw [hbranches, List.mem_singleton] at hname
  subst hname
  rcases List.mem_pair.mp hkey with rfl | rfl
  · obtain rfl := Option.some.inj (hmerged.symm.trans hvalue)
    decide
  · obtain rfl := Option.some.inj (hremote.symm.trans hvalue)
    decide

theorem colours_in_every_mode_sample :
    let words := ["--colors", "never", "tracks", "main", "team/core/main"]
    ∃ invocation, Invocation.ofWords words = .ok invocation ∧
      (∀ word ∈ words, escapes word = 0) ∧ Workspace.sample.repository.IsEscapeFree ∧
      (invocation.run .sample).status = .ok 0 ∧
      escapes (invocation.run .sample).output = 12 := by
  let words := ["--colors", "never", "tracks", "main", "team/core/main"]
  let request : TracksRequest := ⟨"main", "team/core/main", none⟩
  let invocation : Invocation := ⟨0, .never, .tracks request⟩
  have hwords : Invocation.ofWords words = .ok invocation := by decide +kernel
  have hplain : ∀ word ∈ words, escapes word = 0 := by decide
  have hstatus : (invocation.run .sample).status = .ok 0 := by cbv
  obtain ⟨-, -, htracks, -⟩ := colours_in_every_mode words invocation .sample hwords hplain
    Repository.isEscapeFree_sample
  exact ⟨invocation, hwords, hplain, Repository.isEscapeFree_sample, hstatus,
    htracks request 0 rfl hstatus⟩

/-- Output is coloured on a line that asks for none. -/
theorem colours_stand_in_mode_never :
    let workspace := { Workspace.sample with
      repository := { refs := [("refs/heads/main", .direct (.repeated 1))] } }
    let words := ["--colors", "never", "upstream", "main"]
    (∀ word ∈ words, escapes word = 0) ∧ workspace.repository.IsEscapeFree ∧
      ∃ invocation, Invocation.ofWords words = .ok invocation ∧ invocation.colours = .never ∧
        (invocation.run workspace).output =
          "\x1b[1m\x1b[33m\u26a0\ufe0f\x1b[39m\x1b[0m main has no upstream configured\n" := by
  refine ⟨by decide, ⟨by decide, ?_⟩, ⟨0, .never, .followed ⟨some "main", none⟩⟩, ?_, rfl, ?_⟩
  · intro name hname key hkey value hvalue
    cases hvalue
  · decide +kernel
  · cbv

end CommitHeader
