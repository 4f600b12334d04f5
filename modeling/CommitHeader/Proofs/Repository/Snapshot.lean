import CommitHeader.Proofs.Repository.Config
import CommitHeader.Repository
import Mathlib

/-!
# Snapshots of repositories that may not be readable

A snapshot is taken branch by branch, of the merge key and the remote key of each. It fails exactly
if something on the way cannot be read, and else answers for these keys as the configuration does.
Whatever the names of the branches hold, they and the variable can be told from a key, so no two
branches share an entry.
-/

namespace CommitHeader

namespace LocalBranch

def name? : LocalBranch → Option String
  | .named name => some name
  | .illegible | .unreadable => none

/-- A branch that can be read, by its name if that is text. -/
def ofName? : Option String → LocalBranch
  | some name => .named name
  | none => .illegible

@[simp] theorem name?_ofName? (name : Option String) : (ofName? name).name? = name := by
  cases name <;> rfl

theorem name?_eq_some_iff {branch : LocalBranch} {name : String} :
    branch.name? = some name ↔ branch = .named name := by
  cases branch <;> simp [name?]

end LocalBranch

/-- Something that a snapshot needs cannot be read: the configuration, the branches, one of them, or
a key of one whose name is text. -/
def SnapshotSource.IsUnreadable (source : SnapshotSource) : Prop :=
  source.read? = none ∨ source.branches? = none ∨
    ∃ read branches, source.read? = some read ∧ source.branches? = some branches ∧
      (.unreadable ∈ branches ∨ ∃ name, .named name ∈ branches ∧
        (read (mergeKey name) = .failed ∨ read (remoteKey name) = .failed))

namespace ConfigSnapshot

/-! ## Keys -/

theorem mergeKey_injective {name other : String} (h : mergeKey name = mergeKey other) :
    name = other := by
  simpa [mergeKey] using h

theorem remoteKey_injective {name other : String} (h : remoteKey name = remoteKey other) :
    name = other := by
  simpa [remoteKey] using h

/-- The letters before the last one differ. -/
theorem mergeKey_ne_remoteKey (name other : String) : mergeKey name ≠ remoteKey other := by
  intro h
  have hreversed := congrArg (fun key => key.toList.reverse) h
  simp [mergeKey, remoteKey] at hreversed

theorem nodup_keysOf {names : List String} (h : names.Nodup) : (keysOf names).Nodup := by
  refine List.nodup_flatMap.mpr ⟨fun name _ => ?_, h.imp fun {name other} hne => ?_⟩
  · simpa using mergeKey_ne_remoteKey name name
  · intro key hname hother
    simp only [List.mem_pair] at hname hother
    rcases hname with rfl | rfl <;> rcases hother with hkey | hkey
    · exact hne (mergeKey_injective hkey)
    · exact mergeKey_ne_remoteKey name other hkey
    · exact mergeKey_ne_remoteKey other name hkey.symm
    · exact hne (remoteKey_injective hkey)

/-! ## Reading the keys -/

variable {read : String → ConfigAnswer} {keys : List String} {before after : ConfigSnapshot}

theorem exists_capture_iff :
    (∃ after, capture read keys before = .ok after) ↔ ∀ key ∈ keys, read key ≠ .failed := by
  induction keys generalizing before with
  | nil => exact iff_of_true ⟨before, rfl⟩ (List.forall_mem_nil _)
  | cons key keys ih =>
      rw [List.forall_mem_cons, capture]
      cases hread : read key with
      | value text => simp [ih]
      | absent => simp [ih]
      | failed => simp

theorem capture_append (more : List String) :
    capture read (keys ++ more) before = (capture read keys before).bind (capture read more) := by
  induction keys generalizing before with
  | nil => rfl
  | cons key keys ih =>
      rw [List.cons_append, capture, capture]
      cases read key with
      | value text => exact ih
      | absent => exact ih
      | failed => rfl

/-- Every key is put in once at most. -/
theorem map_fst_of_capture_sublist (h : capture read keys before = .ok after) :
    (after.map Prod.fst).Sublist (keys.reverse ++ before.map Prod.fst) := by
  induction keys generalizing before with
  | nil =>
      cases h
      exact List.Sublist.refl _
  | cons key keys ih =>
      rw [List.reverse_cons, List.append_assoc, List.singleton_append]
      unfold capture at h
      split at h
      · exact ih h
      · exact (ih h).trans ((List.sublist_cons_self _ _).append_left _)
      · cases h

/-! ## Branch by branch -/

theorem keysOf_cons (name : String) (names : List String) :
    keysOf (name :: names) = [mergeKey name, remoteKey name] ++ keysOf names :=
  List.flatMap_cons

/-- Branch by branch the same keys are read as all at once. -/
theorem captureEach_eq_ok_iff {branches : List LocalBranch} :
    captureEach read branches before = .ok after ↔ .unreadable ∉ branches ∧
      capture read (keysOf (branches.filterMap LocalBranch.name?)) before = .ok after := by
  induction branches generalizing before with
  | nil => simp [captureEach, keysOf, capture]
  | cons branch branches ih =>
      cases branch with
      | illegible =>
          have hname : (LocalBranch.illegible :: branches).filterMap LocalBranch.name? =
              branches.filterMap LocalBranch.name? := rfl
          rw [captureEach, hname, ih]
          simp
      | unreadable => simp [captureEach]
      | named name =>
          have hname : (LocalBranch.named name :: branches).filterMap LocalBranch.name? =
              name :: branches.filterMap LocalBranch.name? := rfl
          rw [captureEach, hname, keysOf_cons, capture_append]
          cases capture read [mergeKey name, remoteKey name] before with
          | error key => simp [Except.bind]
          | ok snapshot => simp [Except.bind, ih]

theorem mem_names_iff {branches : List LocalBranch} {name : String} :
    name ∈ branches.filterMap LocalBranch.name? ↔ .named name ∈ branches := by
  simp [LocalBranch.name?_eq_some_iff]

theorem exists_captureEach_eq_ok_iff {branches : List LocalBranch} :
    (∃ after, captureEach read branches before = .ok after) ↔ .unreadable ∉ branches ∧
      ∀ name, .named name ∈ branches →
        read (mergeKey name) ≠ .failed ∧ read (remoteKey name) ≠ .failed := by
  simp only [captureEach_eq_ok_iff, exists_and_left, exists_capture_iff, mem_keysOf, mem_names_iff]
  refine and_congr_right fun _ => ⟨fun h name hname => ?_, ?_⟩
  · exact ⟨h _ ⟨name, hname, Or.inl rfl⟩, h _ ⟨name, hname, Or.inr rfl⟩⟩
  · rintro h key ⟨name, hname, rfl | rfl⟩
    · exact (h name hname).1
    · exact (h name hname).2

theorem exists_captureEach_eq_error_iff {branches : List LocalBranch} :
    (∃ fault, captureEach read branches before = .error fault) ↔ .unreadable ∈ branches ∨
      ∃ name, .named name ∈ branches ∧
        (read (mergeKey name) = .failed ∨ read (remoteKey name) = .failed) := by
  have hfails : (∃ fault, captureEach read branches before = .error fault) ↔
      ¬ ∃ after, captureEach read branches before = .ok after := by
    cases captureEach read branches before <;> simp
  rw [hfails, exists_captureEach_eq_ok_iff, not_and_or, not_not]
  refine or_congr_right ?_
  push Not
  exact exists_congr fun name => and_congr_right fun _ => or_iff_not_imp_left.symm

/-! ## Sources -/

theorem ofSource_eq_captureEach {source : SnapshotSource} {branches : List LocalBranch}
    (hread : source.read? = some read) (hbranches : source.branches? = some branches) :
    ofSource source = captureEach read branches [] := by
  rw [ofSource, hread, hbranches]

theorem ofSource_eq_ok_iff {source : SnapshotSource} {snapshot : ConfigSnapshot} :
    ofSource source = .ok snapshot ↔ ∃ read branches, source.read? = some read ∧
      source.branches? = some branches ∧ captureEach read branches [] = .ok snapshot := by
  unfold ofSource
  cases source.read? <;> cases source.branches? <;> simp

theorem exists_ofSource_eq_error_iff {source : SnapshotSource} :
    (∃ fault, ofSource source = .error fault) ↔ source.IsUnreadable := by
  unfold SnapshotSource.IsUnreadable
  cases hread : source.read? with
  | none => simp [ofSource, hread]
  | some read =>
      cases hbranches : source.branches? with
      | none => simp [ofSource, hread, hbranches]
      | some branches =>
          rw [ofSource_eq_captureEach hread hbranches, exists_captureEach_eq_error_iff]
          simp

/-- The snapshot tells of the branches of some names what a configuration has of them, and nothing
of anything else. -/
structure Answers (snapshot : ConfigSnapshot) (read : String → ConfigAnswer)
    (names : List String) : Prop where
  value_eq : ∀ name ∈ names, ∀ key, key = mergeKey name ∨ key = remoteKey name →
    snapshot.value key = (read key).value?.getD ""
  value_eq_empty : ∀ key, (∀ name ∈ names, key ≠ mergeKey name ∧ key ≠ remoteKey name) →
    snapshot.value key = ""
  /-- No two entries have the same key, so that none is in the way of another. -/
  nodup : names.Nodup → (snapshot.map Prod.fst).Nodup

theorem answers_of_capture {names : List String} {snapshot : ConfigSnapshot}
    (h : capture read (keysOf names) [] = .ok snapshot) : snapshot.Answers read names where
  value_eq := by
    intro name hname key hkey
    rw [value_of_capture h, if_pos (mem_keysOf.mpr ⟨name, hname, hkey⟩)]
  value_eq_empty := by
    intro key hkey
    have hother : key ∉ keysOf names := by
      rw [mem_keysOf]
      rintro ⟨name, hname, hmerge | hremote⟩
      · exact (hkey name hname).1 hmerge
      · exact (hkey name hname).2 hremote
    rw [value_of_capture h, if_neg hother]
  nodup := by
    intro hnames
    have hkeys : ((keysOf names).reverse ++ ([] : ConfigSnapshot).map Prod.fst).Nodup := by
      rw [List.map_nil, List.append_nil, List.nodup_reverse]
      exact nodup_keysOf hnames
    exact (map_fst_of_capture_sublist h).nodup hkeys

/-- Where every branch can be read, branch by branch gives the same as all keys at once. -/
theorem ofSource_eq_ok_iff_ofBranches {names : List (Option String)} {snapshot : ConfigSnapshot} :
    ofSource ⟨some read, some (names.map LocalBranch.ofName?)⟩ = .ok snapshot ↔
      ofBranches names read = .ok snapshot := by
  have hnames : (names.map LocalBranch.ofName?).filterMap LocalBranch.name? =
      names.filterMap id := by
    rw [List.filterMap_map]
    exact List.filterMap_congr fun name _ => LocalBranch.name?_ofName? name
  have hreadable : .unreadable ∉ names.map LocalBranch.ofName? := by
    simp only [List.mem_map, not_exists, not_and]
    rintro (_ | name) - h <;> cases h
  rw [ofSource_eq_captureEach rfl rfl, captureEach_eq_ok_iff, hnames, ofBranches]
  exact and_iff_right hreadable

/-- The keys of a configuration can always be read. -/
theorem exists_snapshot (repository : Repository) :
    ∃ snapshot, repository.snapshot = .ok snapshot ∧
      snapshot.Answers repository.config.answer repository.localBranches := by
  have hread (key : String) : repository.config.answer key ≠ .failed := by
    unfold Config.answer
    cases repository.config.value? key <;> simp
  have hnames : (repository.localBranches.map some).filterMap id = repository.localBranches := by
    simp
  obtain ⟨snapshot, hsnapshot⟩ : ∃ snapshot, capture repository.config.answer
      (keysOf repository.localBranches) [] = .ok snapshot :=
    exists_capture_iff.mpr fun key _ => hread key
  refine ⟨snapshot, ?_, answers_of_capture hsnapshot⟩
  rw [Repository.snapshot, ofBranches, hnames, hsnapshot]

/-- There is no snapshot exactly if something that it needs cannot be read. A snapshot that is taken
gives for the keys of the branches whose names are text what the configuration has, or the empty
text, and the empty text for all other keys; and no two of its entries have the same key if no two
branches have the same name. Where the configuration and every branch can be read it is the snapshot
of all keys at once. That of a repository is such a one, and is always taken. -/
theorem snapshot_answers_as_configuration (source : SnapshotSource) :
    ((∃ fault, ofSource source = .error fault) ↔ source.IsUnreadable) ∧
    (∀ snapshot, ofSource source = .ok snapshot → ∃ read branches,
      source.read? = some read ∧ source.branches? = some branches ∧
        snapshot.Answers read (branches.filterMap LocalBranch.name?)) ∧
    (∀ read names, source = ⟨some read, some (names.map LocalBranch.ofName?)⟩ →
      ∀ snapshot, ofSource source = .ok snapshot ↔ ofBranches names read = .ok snapshot) ∧
    ∀ repository : Repository, ∃ snapshot, repository.snapshot = .ok snapshot ∧
      ofSource ⟨some repository.config.answer, some (repository.localBranches.map .named)⟩ =
        .ok snapshot ∧
      snapshot.Answers repository.config.answer repository.localBranches := by
  refine ⟨exists_ofSource_eq_error_iff, fun snapshot h => ?_, ?_, fun repository => ?_⟩
  · obtain ⟨read, branches, hread, hbranches, hcapture⟩ := ofSource_eq_ok_iff.mp h
    exact ⟨read, branches, hread, hbranches,
      answers_of_capture (captureEach_eq_ok_iff.mp hcapture).2⟩
  · rintro read names rfl snapshot
    exact ofSource_eq_ok_iff_ofBranches
  · obtain ⟨snapshot, hsnapshot, hanswers⟩ := exists_snapshot repository
    have hnamed : repository.localBranches.map LocalBranch.named =
        (repository.localBranches.map some).map LocalBranch.ofName? := by
      rw [List.map_map]
      rfl
    refine ⟨snapshot, hsnapshot, ?_, hanswers⟩
    rw [hnamed, ofSource_eq_ok_iff_ofBranches]
    exact hsnapshot

/-- Two branches of which the name of one is that of the other with a variable behind it, and one
whose name is no text. -/
def nestedNames : SnapshotSource where
  read? := some fun key =>
    if key = "branch.a.merge" then .value "refs/heads/b"
    else if key = "branch.a.merge.remote" then .value "origin" else .absent
  branches? := some [.named "a", .illegible, .named "a.merge"]

/-- The same, but for a key that cannot be read. -/
def garbledKey : SnapshotSource where
  read? := some fun key => if key = "branch.a.merge.remote" then .failed else .absent
  branches? := nestedNames.branches?

theorem snapshot_answers_as_configuration_sample :
    let snapshot : ConfigSnapshot :=
      [("branch.a.merge.remote", "origin"), ("branch.a.merge", "refs/heads/b")]
    ofSource nestedNames = .ok snapshot ∧
      snapshot.value (mergeKey "a") = "refs/heads/b" ∧ snapshot.value (remoteKey "a") = "" ∧
      snapshot.value (remoteKey "a.merge") = "origin" ∧ snapshot.value (remoteKey "b") = "" ∧
      ofBranches [some "a", none, some "a.merge"] (nestedNames.read?.getD fun _ => .failed) =
        .ok snapshot ∧
      garbledKey.IsUnreadable ∧ ∃ fault, ofSource garbledKey = .error fault := by
  intro snapshot
  obtain ⟨-, hanswers, hbranches, -⟩ := snapshot_answers_as_configuration nestedNames
  have hok : ofSource nestedNames = .ok snapshot := by decide +kernel
  have hall := (hbranches _ [some "a", none, some "a.merge"] rfl snapshot).mp hok
  obtain ⟨read, branches, hread, hlisted, hanswers⟩ := hanswers snapshot hok
  cases hread
  cases hlisted
  have hmerge := hanswers.value_eq "a" (by decide) _ (Or.inl rfl)
  have hremote := hanswers.value_eq "a" (by decide) _ (Or.inr rfl)
  have hnested := hanswers.value_eq "a.merge" (by decide) _ (Or.inr rfl)
  have hother := hanswers.value_eq_empty (remoteKey "b") (by decide)
  have hunreadable : garbledKey.IsUnreadable :=
    Or.inr (Or.inr ⟨_, _, rfl, rfl, Or.inr ⟨"a.merge", by decide, Or.inr rfl⟩⟩)
  exact ⟨hok, hmerge.trans (by decide), hremote.trans (by decide), hnested.trans (by decide), hother,
    hall, hunreadable, (snapshot_answers_as_configuration garbledKey).1.mpr hunreadable⟩

end ConfigSnapshot

end CommitHeader
