import CommitHeader.Proofs.ObjectId
import CommitHeader.Proofs.Ref.Kind
import CommitHeader.Ref.Tracking
import Mathlib.Data.List.Nodup

/-!
# Following

A reference that is no remote-tracking branch itself follows the one remote-tracking branch that its
two configured values spell out. So the search among candidates does not depend on their order. The
values are those of the local branch of the same short name, whatever the kind of the reference.
-/

namespace CommitHeader

namespace RefName

variable {config : ConfigView} {name candidate : RefName}

/-- A reference follows the remote-tracking branch that its two configured values name, and no
other. -/
theorem tracks_iff (config : ConfigView) (name candidate : RefName) :
    name.tracks config candidate = true ↔
      name.isRemote = false ∧ ∃ remote short, candidate = .tracking remote short ∧ remote ≠ "" ∧
        config (mergeKey name.short) = headsDirectory ++ short ∧
        config (remoteKey name.short) = remote := by
  cases name <;> cases candidate <;>
    simp only [tracks, isRemote, Bool.false_eq_true, reduceCtorEq, false_and, and_false,
      exists_const, tracking.injEq, Bool.and_eq_true, decide_eq_true_eq, ne_eq, true_and]
  all_goals
    constructor
    · intro h
      obtain ⟨⟨⟨-, hfollowed⟩, hmerge⟩, hremote⟩ := h
      exact ⟨_, _, ⟨rfl, rfl⟩, hremote ▸ hfollowed, hmerge, hremote⟩
    · rintro ⟨_, short, ⟨rfl, rfl⟩, hremote, hmerge, rfl⟩
      exact ⟨⟨⟨hmerge ▸ heads_append_ne_empty _, hremote⟩, hmerge⟩, rfl⟩

theorem mergesWith_of_heads {short : String}
    (h : config (mergeKey name.short) = headsDirectory ++ short) :
    name.mergesWith config = short := by
  rw [mergesWith, h, Text.afterLead?_append]
  rfl

theorem mergesWith_of_forall_ne {value : String} (h : config (mergeKey name.short) = value)
    (hshort : ∀ rest, value ≠ headsDirectory ++ rest) : name.mergesWith config = value := by
  rw [mergesWith, h]
  cases hrest : Text.afterLead? headsDirectory value with
  | none => rfl
  | some rest => exact absurd (Text.afterLead?_eq_some_iff.mp hrest) (hshort rest)

/-- What is followed has the configured remote and the configured branch for its parts. -/
theorem eq_tracking_of_tracks (h : name.tracks config candidate = true) :
    candidate = .tracking (name.tracksRemote config) (name.mergesWith config) := by
  obtain ⟨-, remote, short, rfl, -, hmerge, hremote⟩ := (tracks_iff config name candidate).mp h
  rw [mergesWith_of_heads hmerge, tracksRemote, hremote]

theorem isRemote_of_tracks (h : name.tracks config candidate = true) :
    candidate.isRemote = true := by
  rw [eq_tracking_of_tracks h]
  rfl

/-- The branch that a reference follows is determined by its configured values. -/
theorem eq_of_tracks {first second : RefName} (hfirst : name.tracks config first = true)
    (hsecond : name.tracks config second = true) : first = second :=
  (eq_tracking_of_tracks hfirst).trans (eq_tracking_of_tracks hsecond).symm

/-- A candidate that was read has a remote, so what it takes to follow it says nothing of that. -/
theorem tracks_iff_of_read {complete : String} {remote? : Option String}
    (h : read complete remote? = .ok candidate) (config : ConfigView) (name : RefName) :
    name.tracks config candidate = true ↔
      name.isRemote = false ∧ candidate.isRemote = true ∧
        config (mergeKey name.short) = headsDirectory ++ candidate.short ∧
        config (remoteKey name.short) = candidate.remoteName := by
  rw [tracks_iff]
  constructor
  · rintro ⟨hlocal, remote, short, rfl, -, hmerge, hremote⟩
    exact ⟨hlocal, rfl, hmerge, hremote⟩
  · rintro ⟨hlocal, hkind, hmerge, hremote⟩
    exact ⟨hlocal, _, _, eq_tracking_of_isRemote hkind, remoteName_ne_empty_of_read h hkind, hmerge,
      hremote⟩

/-- Of the reference itself, only the short name counts, unless it is a remote-tracking branch. -/
theorem tracks_eq_head (h : name.isRemote = false) (config : ConfigView) (candidate : RefName) :
    name.tracks config candidate = (head name.short).tracks config candidate := by
  cases name with
  | tracking remote short => cases h
  | _ => cases candidate <;> rfl

end RefName

/-! ## Candidates -/

/-- Where complete names differ, a search for what no two names have in common finds whatever has
it. -/
theorem find?_eq_some_iff_of_unique {refs : List Ref} {p : Ref → Bool}
    (hdistinct : (refs.map fun ref => ref.name.complete).Nodup)
    (hunique : ∀ first second, p first = true → p second = true →
      first.name.complete = second.name.complete) {ref : Ref} :
    refs.find? p = some ref ↔ ref ∈ refs ∧ p ref = true := by
  constructor
  · intro h
    exact ⟨List.mem_of_find?_eq_some h, List.find?_some h⟩
  · rintro ⟨hmem, href⟩
    cases hfind : refs.find? p with
    | none => exact absurd href (List.find?_eq_none.mp hfind ref hmem)
    | some found =>
        have hsame := hunique found ref (List.find?_some hfind) href
        rw [List.inj_on_of_nodup_map hdistinct (List.mem_of_find?_eq_some hfind) hmem hsame]

section Candidates

variable {config : ConfigView} {name : RefName} {candidates : List Ref}

/-- Among candidates of distinct names, the one that is followed is found. -/
theorem findTracked?_eq_some_iff_mem
    (hdistinct : (candidates.map fun ref => ref.name.complete).Nodup) {found : Ref} :
    findTracked? config name candidates = some found ↔
      found ∈ candidates ∧ name.tracks config found.name = true :=
  find?_eq_some_iff_of_unique hdistinct fun _ _ hfirst hsecond =>
    congrArg RefName.complete (RefName.eq_of_tracks hfirst hsecond)

theorem findTracked?_eq_none_iff :
    findTracked? config name candidates = none ↔
      ∀ ref ∈ candidates, name.tracks config ref.name = false := by
  rw [findTracked?, List.find?_eq_none]
  simp only [Bool.not_eq_true]

theorem findTracked?_of_perm {others : List Ref}
    (hdistinct : (candidates.map fun ref => ref.name.complete).Nodup)
    (hperm : others.Perm candidates) :
    findTracked? config name others = findTracked? config name candidates := by
  have hothers : (others.map fun ref => ref.name.complete).Nodup :=
    (hperm.map _).nodup_iff.mpr hdistinct
  apply Option.ext
  intro found
  calc findTracked? config name others = some found
      ↔ found ∈ others ∧ name.tracks config found.name = true :=
        findTracked?_eq_some_iff_mem hothers
    _ ↔ found ∈ candidates ∧ name.tracks config found.name = true := by rw [hperm.mem_iff]
    _ ↔ findTracked? config name candidates = some found :=
        (findTracked?_eq_some_iff_mem hdistinct).symm

end Candidates

/-- All that a reference follows is one branch, whatever it was read from: the configured one of the
configured remote. So the search among candidates of distinct names finds the same one in any order,
and none exactly if none is followed. -/
theorem followed_branch_is_unique (config : ConfigView) (name : RefName) :
    (∀ complete remote? first other otherRemote? second,
      RefName.read complete remote? = .ok first → RefName.read other otherRemote? = .ok second →
      name.tracks config first = true → name.tracks config second = true →
        complete = other ∧ first.remoteName = second.remoteName ∧ first.short = second.short ∧
        first.remoteName = name.tracksRemote config ∧ first.short = name.mergesWith config) ∧
    ∀ candidates : List Ref, (candidates.map fun ref => ref.name.complete).Nodup →
      (∀ others : List Ref, others.Perm candidates →
        findTracked? config name others = findTracked? config name candidates) ∧
      (findTracked? config name candidates = none ↔
        ∀ ref ∈ candidates, name.tracks config ref.name = false) := by
  refine ⟨?_, fun candidates hdistinct => ⟨?_, findTracked?_eq_none_iff⟩⟩
  · intro complete remote? first other otherRemote? second hfirst hsecond htracks htracksSecond
    obtain rfl := RefName.eq_of_tracks htracks htracksSecond
    have hcomplete : complete = other :=
      (RefName.complete_of_read hfirst).symm.trans (RefName.complete_of_read hsecond)
    have hparts := RefName.eq_tracking_of_tracks htracks
    refine ⟨hcomplete, rfl, rfl, ?_, ?_⟩
    · rw [hparts]
      rfl
    · rw [hparts]
      rfl
  · intro others hperm
    exact findTracked?_of_perm hdistinct hperm

/-- A configuration in which the branch of one name follows a branch of a remote with a slash in its
name. -/
def ConfigView.sample : ConfigView := fun key =>
  if key = "branch.main.merge" then "refs/heads/main"
  else if key = "branch.main.remote" then "team/core"
  else ""

theorem followed_branch_is_unique_sample :
    let candidates : List Ref := [⟨.tracking "team" "core/next", .repeated 1⟩,
      ⟨.tracking "team/core" "main", .repeated 2⟩, ⟨.tracking "origin" "main", .repeated 3⟩]
    (candidates.map fun ref => ref.name.complete).Nodup ∧
      findTracked? .sample (.head "main") candidates.reverse =
        some ⟨.tracking "team/core" "main", .repeated 2⟩ ∧
      RefName.read "refs/remotes/team/core/main" (some "team/core") =
        .ok (.tracking "team/core" "main") ∧
      RefName.tracks .sample (.head "main") (.tracking "team/core" "main") = true ∧
      "team/core" = RefName.tracksRemote .sample (.head "main") ∧
      "main" = RefName.mergesWith .sample (.head "main") := by
  intro candidates
  obtain ⟨hunique, hsearch⟩ := followed_branch_is_unique .sample (.head "main")
  have hdistinct : (candidates.map fun ref => ref.name.complete).Nodup := by decide
  have hfound : findTracked? .sample (.head "main") candidates =
      some ⟨.tracking "team/core" "main", .repeated 2⟩ := by decide +kernel
  have hread := RefName.read_team_core_main
  have htracks : RefName.tracks .sample (.head "main") (.tracking "team/core" "main") = true := by
    decide +kernel
  have hreverse := (hsearch candidates hdistinct).1 candidates.reverse candidates.reverse_perm
  obtain ⟨-, -, -, hremote, hshort⟩ := hunique _ _ _ _ _ _ hread hread htracks htracks
  exact ⟨hdistinct, hreverse.trans hfound, hread, htracks, hremote, hshort⟩

/-- What keeps a reference from following is only that it is a remote-tracking branch itself. A
local branch follows what its configured values name. A tag, or a reference of no kind, follows what
the local branch of the same short name does. -/
theorem follows_as_branch_of_short_name (config : ConfigView) (name : RefName) (complete : String)
    (remote? : Option String) (candidate : RefName)
    (h : RefName.read complete remote? = .ok candidate) :
    (name.isHead ∨ name.isRemote → (name.tracks config candidate = true ↔
      name.isHead ∧ candidate.isRemote ∧
      config ("branch." ++ name.short ++ ".merge") = "refs/heads/" ++ candidate.short ∧
      config ("branch." ++ name.short ++ ".remote") = candidate.remoteName)) ∧
    (¬ name.isRemote → name.tracks config candidate =
      (RefName.ofComplete ("refs/heads/" ++ name.short)).tracks config candidate) := by
  have htracks := RefName.tracks_iff_of_read h config name
  refine ⟨?_, ?_⟩
  · intro hkind
    have hlocal : name.isRemote = false ↔ name.isHead = true := by
      cases name <;> simp_all [RefName.isHead, RefName.isRemote]
    rw [hlocal] at htracks
    exact htracks
  · intro hlocal
    have hbranch : RefName.ofComplete ("refs/heads/" ++ name.short) = .head name.short :=
      RefName.ofComplete_heads name.short
    rw [hbranch]
    exact RefName.tracks_eq_head (Bool.eq_false_iff.mpr hlocal) config candidate

theorem follows_as_branch_of_short_name_sample :
    RefName.read "refs/remotes/team/core/main" (some "team/core") =
        .ok (.tracking "team/core" "main") ∧
      RefName.tracks .sample (.head "main") (.tracking "team/core" "main") = true ∧
      RefName.tracks .sample (.other "main") (.tracking "team/core" "main") = true := by
  have hread := RefName.read_team_core_main
  obtain ⟨hbranch, -⟩ := follows_as_branch_of_short_name .sample (.head "main") _ _ _ hread
  obtain ⟨-, hother⟩ := follows_as_branch_of_short_name .sample (.other "main") _ _ _ hread
  have htracks : RefName.tracks .sample (.head "main") (.tracking "team/core" "main") = true :=
    (hbranch (Or.inl rfl)).mpr ⟨rfl, rfl, by decide, by decide⟩
  exact ⟨hread, htracks, (hother (by decide)).trans htracks⟩

/-- A tag of the name of a local branch follows what that branch follows. -/
theorem tag_follows :
    let tag := RefName.ofComplete "refs/tags/main"
    let candidate := RefName.ofComplete "refs/remotes/origin/main"
    let config : ConfigView := fun key =>
      if key = "branch.main.merge" then "refs/heads/main"
      else if key = "branch.main.remote" then "origin"
      else ""
    tag.isTag = true ∧ tag.isHead = false ∧ candidate.isRemote = true ∧
      tag.tracks config candidate = true := by
  decide +kernel

end CommitHeader
