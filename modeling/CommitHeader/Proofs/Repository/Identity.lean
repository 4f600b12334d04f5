import CommitHeader.Proofs.Command.Branches
import CommitHeader.Proofs.Ref.KnownRemote
import CommitHeader.Proofs.Repository.Listing

/-!
# What branches are listed as

A listing keeps the branches that point at an object themselves, each under its complete name and in
its place. What a branch is listed as depends on its directory and, for a remote-tracking branch, on
whether its remote is known: a known remote takes as much of the path as it is long, and otherwise
the first segment is the remote.
-/

namespace CommitHeader

namespace RefName

/-- A path of a remote-tracking branch is cut after its first segment, if something is there to cut
off. -/
theorem ofComplete_remotes_cases (path : String) :
    (∃ first short, first ≠ "" ∧ '/' ∉ first.toList ∧ path = first ++ "/" ++ short ∧
      ofComplete (remotesDirectory ++ path) = .tracking first short) ∨
    ('/' ∉ path.toList ∨ path.toList.head? = some '/') ∧
      ofComplete (remotesDirectory ++ path) = .other (remotesDirectory ++ path) := by
  by_cases hcut : ∃ first short, first ≠ "" ∧ '/' ∉ first.toList ∧ path = first ++ "/" ++ short
  · obtain ⟨first, short, hne, hslash, rfl⟩ := hcut
    refine Or.inl ⟨first, short, hne, hslash, rfl, ?_⟩
    apply ofComplete_eq_tracking_iff.mpr
    simp only [String.append_assoc, hne, hslash, ne_eq, not_false_eq_true, and_self]
  · right
    push Not at hcut
    refine ⟨?_, ofComplete_remotes_eq_other hcut⟩
    by_cases hslash : '/' ∈ path.toList
    · right
      obtain ⟨first, rest, rfl, hfirst⟩ := exists_firstSegment hslash
      -- The first segment is empty: otherwise the path would be cut after it.
      obtain rfl : first = "" := by
        by_contra hne
        exact hcut first rest hne hfirst rfl
      simp
    · exact Or.inl hslash

end RefName

theorem Repository.isBelow_iff {directory name : String} :
    isBelow directory name = true ↔ ∃ path, name = directory ++ path := by
  simp only [isBelow, Option.isSome_iff_exists, Text.afterLead?_eq_some_iff]

/-! ## One branch -/

namespace BranchEntry

/-- The directory of the branches of a kind. -/
def directory (isRemote : Bool) : String :=
  if isRemote then remotesDirectory else headsDirectory

/-- Whether the complete name of a branch, if it is a text, lies in the directory of its kind. -/
def isPlaced (entry : BranchEntry) : Bool :=
  entry.complete?.all (Repository.isBelow (directory entry.isRemote))

theorem exists_path_of_isPlaced {entry : BranchEntry} {complete : String} (h : entry.isPlaced)
    (hcomplete : entry.complete? = some complete) :
    ∃ path, complete = directory entry.isRemote ++ path := by
  rw [isPlaced, hcomplete, Option.all_some] at h
  exact Repository.isBelow_iff.mp h

/-- The name that a branch is listed under, by its kind, by what is known of its remote and by its
complete name. -/
inductive Identity : Bool → RemoteAnswer → String → RefName → Prop
  | head (answer : RemoteAnswer) (short : String) :
      Identity false answer ("refs/heads/" ++ short) (.head short)
  | known (remote short : String) :
      Identity true (.named remote) ("refs/remotes/" ++ remote ++ "/" ++ short)
        (.tracking remote short)
  /-- Without a known remote the first segment is the remote, if another one follows. -/
  | firstSegment {answer : RemoteAnswer} (hanswer : ∀ remote, answer ≠ .named remote)
      (first short : String) (hne : first ≠ "") (hslash : '/' ∉ first.toList) :
      Identity true answer ("refs/remotes/" ++ first ++ "/" ++ short) (.tracking first short)
  | loneSegment {answer : RemoteAnswer} (hanswer : ∀ remote, answer ≠ .named remote)
      (path : String) (hlone : '/' ∉ path.toList ∨ path.toList.head? = some '/') :
      Identity true answer ("refs/remotes/" ++ path) (.other ("refs/remotes/" ++ path))

/-- A reference is what a branch is listed as. -/
structure IsListedAs (entry : BranchEntry) (ref : Ref) : Prop extends entry.IsRef ref where
  identity : Identity entry.isRemote entry.remote ref.name.complete ref.name

theorem identity_of_unknown {answer : RemoteAnswer} (hanswer : ∀ remote, answer ≠ .named remote)
    (path : String) :
    Identity true answer (remotesDirectory ++ path) (.ofComplete (remotesDirectory ++ path)) := by
  rcases RefName.ofComplete_remotes_cases path with
    ⟨first, short, hne, hslash, rfl, hname⟩ | ⟨hlone, hname⟩
  · rw [hname, ← String.append_assoc, ← String.append_assoc]
    exact .firstSegment hanswer first short hne hslash
  · rw [hname]
    exact .loneSegment hanswer path hlone

theorem name_of_unknown {entry : BranchEntry} (hanswer : ∀ remote, entry.remote ≠ .named remote)
    (complete : String) : entry.name complete = .ok (.ofComplete complete) := by
  unfold BranchEntry.name
  split
  · rename_i remote _ hremote
    exact absurd hremote (hanswer remote)
  · rfl

theorem identity_of_name {entry : BranchEntry} {complete : String} {name : RefName}
    (hplaced : entry.isPlaced) (hcomplete : entry.complete? = some complete)
    (h : entry.name complete = .ok name) :
    Identity entry.isRemote entry.remote complete name := by
  obtain ⟨path, rfl⟩ := exists_path_of_isPlaced hplaced hcomplete
  cases hkind : entry.isRemote with
  | false =>
      rw [BranchEntry.name, hkind] at h
      obtain rfl := Except.ok.inj h
      rw [directory, if_neg Bool.false_ne_true, RefName.ofComplete_heads]
      exact .head _ path
  | true =>
      rw [hkind, directory, if_pos rfl] at h
      rw [directory, if_pos rfl]
      by_cases hanswer : ∃ remote, entry.remote = .named remote
      · obtain ⟨remote, hremote⟩ := hanswer
        rw [BranchEntry.name, hkind, hremote] at h
        obtain ⟨-, short, rfl, hpath⟩ := RefName.ofRemote_eq_ok_iff.mp h
        rw [hremote, hpath]
        exact .known remote short
      · push Not at hanswer
        rw [name_of_unknown hanswer] at h
        obtain rfl := Except.ok.inj h
        exact identity_of_unknown hanswer path

theorem isListedAs_of_ref? {entry : BranchEntry} {ref : Ref} (hplaced : entry.isPlaced)
    (h : entry.ref? = .ok (some ref)) : entry.IsListedAs ref := by
  obtain ⟨hcomplete, htarget, hname⟩ := ref?_eq_some h
  exact ⟨⟨hcomplete, htarget⟩, identity_of_name hplaced hcomplete hname⟩

/-- The complete name of a branch and what it points at, if it is listed. -/
def pointer? (entry : BranchEntry) : Option (String × ObjectId) :=
  match entry.complete?, entry.target? with
  | some complete, some target => some (complete, target)
  | _, _ => none

theorem pointer?_eq_none {entry : BranchEntry} (h : ¬ entry.isListed) : entry.pointer? = none := by
  unfold pointer?
  split
  · rename_i complete target hcomplete htarget
    simp [isListed, hcomplete, htarget] at h
  · rfl

theorem IsRef.pointer?_eq {entry : BranchEntry} {ref : Ref} (h : entry.IsRef ref) :
    entry.pointer? = some (ref.name.complete, ref.target) := by
  rw [pointer?, h.complete?_eq, h.target?_eq]

end BranchEntry

/-! ## All branches -/

/-- References are what the listed branches are listed as, one for each of them and in their order,
and no two of them share a name unless two of the branches do. -/
structure Lists (entries : List BranchEntry) (refs : List Ref) : Prop where
  each : List.Forall₂ BranchEntry.IsListedAs (entries.filter BranchEntry.isListed) refs
  distinct : ((entries.filter BranchEntry.isListed).map BranchEntry.complete?).Nodup →
    (refs.map fun ref => ref.name.complete).Nodup

theorem map_eq_map_of_forall₂ {α β γ : Type} {f : α → γ} {g : β → γ} {as : List α} {bs : List β}
    (h : List.Forall₂ (fun a b => f a = g b) as bs) : as.map f = bs.map g := by
  rw [← List.forall₂_eq_eq_eq, List.forall₂_map_left_iff, List.forall₂_map_right_iff]
  exact h

theorem map_pointer_of_isRef {entries : List BranchEntry} {refs : List Ref}
    (h : List.Forall₂ BranchEntry.IsRef (entries.filter BranchEntry.isListed) refs) :
    refs.map (fun ref => (ref.name.complete, ref.target)) =
      entries.filterMap BranchEntry.pointer? := by
  have hlisted : entries.filterMap BranchEntry.pointer? =
      (entries.filter BranchEntry.isListed).filterMap BranchEntry.pointer? := by
    rw [List.filterMap_filter]
    congr 1
    funext entry
    split_ifs with hentry
    · rfl
    · exact BranchEntry.pointer?_eq_none hentry
  have hmap := map_eq_map_of_forall₂ (h.imp fun _ _ href => href.pointer?_eq)
  calc refs.map (fun ref => (ref.name.complete, ref.target))
      = (refs.map fun ref => some (ref.name.complete, ref.target)).filterMap id := by
        rw [List.filterMap_map]
        simp
    _ = ((entries.filter BranchEntry.isListed).map BranchEntry.pointer?).filterMap id := by
        rw [hmap]
    _ = entries.filterMap BranchEntry.pointer? := by
        rw [List.filterMap_map, hlisted]
        rfl

theorem lists_of_listRefs {entries : List BranchEntry} {refs : List Ref}
    (hplaced : ∀ entry ∈ entries, entry.isPlaced) (h : listRefs entries = .ok refs) :
    Lists entries refs where
  each := by
    have hlisted : ∀ entry ∈ entries.filter BranchEntry.isListed, entry.isPlaced :=
      fun entry hentry => hplaced entry (List.mem_of_mem_filter hentry)
    refine ((List.forall₂_and_left _ _).mpr ⟨hlisted, forall₂_ref? h⟩).imp ?_
    rintro entry ref ⟨hentry, href⟩
    exact BranchEntry.isListedAs_of_ref? hentry href
  distinct hnodup := by
    have hnames := map_eq_map_of_forall₂ ((forall₂_isRef h).imp fun _ _ href => href.complete?_eq)
    rw [hnames] at hnodup
    exact List.Nodup.of_map (f := some) (by simpa [List.map_map, Function.comp_def] using hnodup)

namespace Repository

/-- The branches of a repository are those in one of the two directories. -/
theorem isPlaced_of_mem_branches {repository : Repository} {entry : BranchEntry}
    (h : entry ∈ repository.branches) : entry.isPlaced := by
  obtain ⟨ref, href, rfl⟩ := List.mem_map.mp h
  rw [branchRefs, List.mem_mergeSort, List.mem_filter, Bool.or_eq_true] at href
  show isBelow (BranchEntry.directory (isBelow remotesDirectory ref.1)) ref.1 = true
  cases hremote : isBelow remotesDirectory ref.1 with
  | true => exact hremote
  | false =>
      have hheads : isBelow headsDirectory ref.1 = true := by simpa [hremote] using href.2
      exact hheads

/-- The names of the branches and the objects that they point at themselves. -/
def branchTips (repository : Repository) : List (String × ObjectId) :=
  repository.branchRefs.filterMap fun ref =>
    match ref.2 with
    | .direct id => some (ref.1, id)
    | .symbolic _ => none

theorem filterMap_pointer_branches (repository : Repository) :
    repository.branches.filterMap BranchEntry.pointer? = repository.branchTips := by
  rw [branches, branchTips, List.filterMap_map]
  congr 1
  funext ref
  obtain ⟨name, target⟩ := ref
  cases target <;> rfl

end Repository

/-- A listing has one reference for each branch that points at an object itself and whose name is a
text, in the order of the branches, with its complete name and its object. A local branch is listed
by what follows its directory, a remote-tracking one by what follows its known remote or else its
first segment. For a repository these branches are its references in the two directories. -/
theorem listing_is_faithful :
    (∀ entries refs, (∀ entry ∈ entries, BranchEntry.isPlaced entry) →
      listRefs entries = .ok refs → Lists entries refs) ∧
    ∀ (repository : Repository) (view : BranchView), repository.branchView = .ok view →
      Lists repository.branches view.refs ∧
      view.refs.map (fun ref => (ref.name.complete, ref.target)) = repository.branchTips := by
  refine ⟨fun entries refs => lists_of_listRefs, ?_⟩
  intro repository view hview
  obtain ⟨_, -, hrefs, -⟩ := Repository.branchView_eq_ok hview
  refine ⟨lists_of_listRefs (fun _ => Repository.isPlaced_of_mem_branches) hrefs, ?_⟩
  rw [map_pointer_of_isRef (forall₂_isRef hrefs), Repository.filterMap_pointer_branches]

/-- Branches of every kind, with every answer about their remotes. -/
def BranchEntry.samples : List BranchEntry :=
  [⟨some "refs/heads/refs/heads/main", some (.repeated 1), false, .unknown⟩,
    ⟨some "refs/remotes/team/core/main", some (.repeated 2), true, .named "team/core"⟩,
    ⟨some "refs/remotes/origin/HEAD", none, true, .named "origin"⟩,
    ⟨some "refs/remotes/fork/topic/a", some (.repeated 3), true, .unknown⟩,
    ⟨none, some (.repeated 4), true, .unknown⟩,
    ⟨some "refs/remotes/lone", some (.repeated 5), true, .illegible⟩]

/-- What they are listed as. -/
def Ref.samples : List Ref :=
  [⟨.head "refs/heads/main", .repeated 1⟩, ⟨.tracking "team/core" "main", .repeated 2⟩,
    ⟨.tracking "fork" "topic/a", .repeated 3⟩, ⟨.other "refs/remotes/lone", .repeated 5⟩]

theorem listing_is_faithful_sample :
    listRefs BranchEntry.samples = .ok Ref.samples ∧
      Lists BranchEntry.samples Ref.samples ∧
      Lists Repository.sample.branches BranchView.sample.refs := by
  have hlisted : listRefs BranchEntry.samples = .ok Ref.samples := by cbv
  have hplaced : ∀ entry ∈ BranchEntry.samples, entry.isPlaced := by decide +kernel
  exact ⟨hlisted, listing_is_faithful.1 _ _ hplaced hlisted,
    (listing_is_faithful.2 _ _ Repository.branchView_sample).1⟩

end CommitHeader
