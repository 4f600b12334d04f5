import CommitHeader.Command.Branches
import CommitHeader.Proofs.ObjectId
import CommitHeader.Proofs.Ref.Listing
import Mathlib

/-!
# When branches can be listed

A listing has a reference for each branch, one after the other. What is known of remotes decides
whether there is a listing at all: a branch whose remote is not known, or is no text, is listed all
the same, but a single branch outside the directory of its known remote is enough for there to be
none.
-/

namespace CommitHeader

/-! ## One branch -/

namespace BranchEntry

/-- A branch that a listing has a reference for: its name is a text, and it does not stand for
another branch. -/
def isListed (entry : BranchEntry) : Bool :=
  entry.complete?.isSome && entry.target?.isSome

theorem exists_of_isListed {entry : BranchEntry} (h : entry.isListed) :
    ∃ complete target, entry.complete? = some complete ∧ entry.target? = some target := by
  simp only [isListed, Bool.and_eq_true, Option.isSome_iff_exists] at h
  obtain ⟨⟨complete, hcomplete⟩, target, htarget⟩ := h
  exact ⟨complete, target, hcomplete, htarget⟩

/-- A listed branch lies outside the directory of its remote, whose name is known. -/
structure Strays (entry : BranchEntry) (mismatch : RefName.Mismatch) : Prop where
  isListed : entry.isListed
  isRemote : entry.isRemote
  complete?_eq : entry.complete? = some mismatch.complete
  remote_eq : entry.remote = .named mismatch.remote
  not_belongsTo : ¬ RefName.BelongsTo mismatch.complete mismatch.remote

theorem name_eq_error_iff {entry : BranchEntry} {complete : String}
    {mismatch : RefName.Mismatch} :
    entry.name complete = .error mismatch ↔
      entry.isRemote ∧ entry.remote = .named mismatch.remote ∧ mismatch.complete = complete ∧
        ¬ RefName.BelongsTo mismatch.complete mismatch.remote := by
  unfold BranchEntry.name
  split
  · rename_i remote hkind hremote
    rw [RefName.ofRemote_eq_error_iff]
    constructor
    · rintro ⟨hbelongs, rfl⟩
      exact ⟨hkind, hremote, rfl, hbelongs⟩
    · rintro ⟨-, hnamed, rfl, hbelongs⟩
      have hsame : remote = mismatch.remote := by
        rw [hremote] at hnamed
        exact RemoteAnswer.named.inj hnamed
      subst hsame
      exact ⟨hbelongs, rfl⟩
  · rename_i hother
    constructor
    · intro h
      cases h
    · rintro ⟨hkind, hnamed, -⟩
      exact (hother _ hkind hnamed).elim

theorem ref?_eq_error_iff {entry : BranchEntry} {mismatch : RefName.Mismatch} :
    entry.ref? = .error mismatch ↔ entry.Strays mismatch := by
  unfold ref?
  split
  · rename_i complete target hcomplete htarget
    have hlisted : entry.isListed := by simp [BranchEntry.isListed, hcomplete, htarget]
    have hname : (entry.name complete).map (fun name => some (⟨name, target⟩ : Ref)) =
        .error mismatch ↔ entry.name complete = .error mismatch := by
      cases entry.name complete <;> simp [Except.map]
    rw [hname, name_eq_error_iff]
    constructor
    · rintro ⟨hkind, hremote, rfl, hbelongs⟩
      exact ⟨hlisted, hkind, hcomplete, hremote, hbelongs⟩
    · intro h
      have hsame := h.complete?_eq
      rw [hcomplete] at hsame
      exact ⟨h.isRemote, h.remote_eq, (Option.some.inj hsame).symm, h.not_belongsTo⟩
  · rename_i hnone
    constructor
    · intro h
      cases h
    · intro h
      obtain ⟨complete, target, hcomplete, htarget⟩ := exists_of_isListed h.isListed
      exact (hnone complete target hcomplete htarget).elim

theorem isListed_of_ref? {entry : BranchEntry} {ref? : Option Ref} (h : entry.ref? = .ok ref?) :
    entry.isListed = ref?.isSome := by
  unfold BranchEntry.ref? at h
  split at h
  · rename_i complete target hcomplete htarget
    cases hname : entry.name complete with
    | error cause => simp [hname, Except.map] at h
    | ok name =>
        simp only [hname, Except.map, Except.ok.injEq] at h
        simp [BranchEntry.isListed, hcomplete, htarget, ← h]
  · rename_i hnone
    cases h
    rw [Option.isSome_none, Bool.eq_false_iff]
    intro hlisted
    obtain ⟨complete, target, hcomplete, htarget⟩ := exists_of_isListed hlisted
    exact hnone complete target hcomplete htarget

/-- A reference is that of a branch: of its complete name, and of what it points at. -/
structure IsRef (entry : BranchEntry) (ref : Ref) : Prop where
  complete?_eq : entry.complete? = some ref.name.complete
  target?_eq : entry.target? = some ref.target

end BranchEntry

/-! ## All branches -/

theorem listRefs_cons_of_error {entry : BranchEntry} {cause : RefName.Mismatch}
    (h : entry.ref? = .error cause) (entries : List BranchEntry) :
    listRefs (entry :: entries) = .error cause := by
  rw [listRefs, h]

theorem listRefs_cons_eq_error_iff {entry : BranchEntry} {ref? : Option Ref}
    (h : entry.ref? = .ok ref?) (entries : List BranchEntry) (mismatch : RefName.Mismatch) :
    listRefs (entry :: entries) = .error mismatch ↔ listRefs entries = .error mismatch := by
  rw [listRefs, h]
  cases listRefs entries <;> simp

theorem BranchEntry.not_strays_of_ref? {entry : BranchEntry} {ref? : Option Ref}
    (h : entry.ref? = .ok ref?) (cause : RefName.Mismatch) : ¬ entry.Strays cause := by
  intro hstrays
  rw [BranchEntry.ref?_eq_error_iff.mpr hstrays] at h
  cases h

/-- There is no listing if some branch strays, and the first one that does is blamed. -/
theorem listRefs_eq_error_iff {entries : List BranchEntry} {mismatch : RefName.Mismatch} :
    listRefs entries = .error mismatch ↔
      ∃ before entry after, entries = before ++ entry :: after ∧
        (∀ other ∈ before, ∀ cause, ¬ other.Strays cause) ∧ entry.Strays mismatch := by
  induction entries with
  | nil => simp [listRefs]
  | cons entry entries ih =>
      cases href : entry.ref? with
      | error cause =>
          -- The first branch is blamed itself, with nothing before it.
          have hstrays := BranchEntry.ref?_eq_error_iff.mp href
          rw [listRefs_cons_of_error href, Except.error.injEq]
          constructor
          · rintro rfl
            exact ⟨[], entry, entries, rfl, by simp, hstrays⟩
          · rintro ⟨before, first, after, heq, hbefore, hfirst⟩
            cases before with
            | nil =>
                obtain ⟨rfl, -⟩ := List.cons.inj heq
                exact Except.error.inj
                  (href.symm.trans (BranchEntry.ref?_eq_error_iff.mpr hfirst))
            | cons other before =>
                obtain ⟨rfl, -⟩ := List.cons.inj heq
                exact absurd hstrays (hbefore entry List.mem_cons_self cause)
      | ok ref? =>
          -- It is one more of those before the branch that is blamed.
          have hstays := BranchEntry.not_strays_of_ref? href
          rw [listRefs_cons_eq_error_iff href, ih]
          constructor
          · rintro ⟨before, first, after, rfl, hbefore, hfirst⟩
            refine ⟨entry :: before, first, after, rfl, ?_, hfirst⟩
            exact List.forall_mem_cons.mpr ⟨hstays, hbefore⟩
          · rintro ⟨before, first, after, heq, hbefore, hfirst⟩
            cases before with
            | nil =>
                obtain ⟨rfl, -⟩ := List.cons.inj heq
                exact absurd hfirst (hstays mismatch)
            | cons other before =>
                obtain ⟨rfl, rfl⟩ := List.cons.inj heq
                exact ⟨before, first, after, rfl, (List.forall_mem_cons.mp hbefore).2, hfirst⟩

theorem exists_listRefs_iff {entries : List BranchEntry} :
    (∃ refs, listRefs entries = .ok refs) ↔ ∀ entry ∈ entries, ∀ cause, ¬ entry.Strays cause := by
  induction entries with
  | nil => simp [listRefs]
  | cons entry entries ih =>
      rw [List.forall_mem_cons, ← ih]
      constructor
      · rintro ⟨refs, hrefs⟩
        obtain ⟨ref, others, href, hothers, -⟩ := listRefs_cons_eq_ok.mp hrefs
        exact ⟨BranchEntry.not_strays_of_ref? href, others, hothers⟩
      · rintro ⟨hstays, others, hothers⟩
        cases href : entry.ref? with
        | error cause => exact absurd (BranchEntry.ref?_eq_error_iff.mp href) (hstays cause)
        | ok ref => exact ⟨_, listRefs_cons_eq_ok.mpr ⟨ref, others, href, hothers, rfl⟩⟩

/-- The listed branches have a reference each, in their order. -/
theorem forall₂_ref? {entries : List BranchEntry} {refs : List Ref}
    (h : listRefs entries = .ok refs) :
    List.Forall₂ (fun entry ref => entry.ref? = .ok (some ref))
      (entries.filter BranchEntry.isListed) refs := by
  induction entries generalizing refs with
  | nil =>
      cases h
      exact .nil
  | cons entry entries ih =>
      obtain ⟨first, others, hfirst, hothers, rfl⟩ := listRefs_cons_eq_ok.mp h
      have hlisted := BranchEntry.isListed_of_ref? hfirst
      cases first with
      | none =>
          rw [List.filter_cons_of_neg (by simp [hlisted])]
          exact ih hothers
      | some ref =>
          rw [List.filter_cons_of_pos (by simp [hlisted])]
          exact .cons hfirst (ih hothers)

theorem forall₂_isRef {entries : List BranchEntry} {refs : List Ref}
    (h : listRefs entries = .ok refs) :
    List.Forall₂ BranchEntry.IsRef (entries.filter BranchEntry.isListed) refs := by
  refine (forall₂_ref? h).imp ?_
  intro entry ref href
  obtain ⟨hcomplete, htarget, -⟩ := BranchEntry.ref?_eq_some href
  exact ⟨hcomplete, htarget⟩

/-- Branches are listed, one reference for each that has a name and a target of its own, unless the
known remote of one of them does not lead its path. An unknown remote, and one whose name is no
text, is never in the way. -/
theorem listing_fails_only_for_stray (entries : List BranchEntry) :
    ((∃ refs, listRefs entries = .ok refs) ↔
      ∀ entry ∈ entries, ∀ cause, ¬ entry.Strays cause) ∧
    (∀ refs, listRefs entries = .ok refs →
      List.Forall₂ BranchEntry.IsRef (entries.filter BranchEntry.isListed) refs) ∧
    (∀ mismatch, listRefs entries = .error mismatch ↔
      ∃ before entry after, entries = before ++ entry :: after ∧
        (∀ other ∈ before, ∀ cause, ¬ other.Strays cause) ∧ entry.Strays mismatch) ∧
    ∀ entry ∈ entries, ¬ entry.isRemote ∨ entry.remote = .unknown ∨ entry.remote = .illegible →
      ∀ cause, ¬ entry.Strays cause := by
  refine ⟨exists_listRefs_iff, fun refs => forall₂_isRef, fun mismatch => listRefs_eq_error_iff, ?_⟩
  rintro entry - hremote cause hstrays
  rcases hremote with hlocal | hunknown | hillegible
  · exact hlocal hstrays.isRemote
  · rw [hstrays.remote_eq] at hunknown
    cases hunknown
  · rw [hstrays.remote_eq] at hillegible
    cases hillegible

/-- A repository with a remote whose branches are kept in a directory of another name. -/
def Repository.mirrored : Repository where
  refs := [("refs/heads/main", .direct (.repeated 1)),
    ("refs/remotes/mirror/main", .direct (.repeated 2))]
  config := [("remote.origin.url", "x"),
    ("remote.origin.fetch", "+refs/heads/*:refs/remotes/mirror/*")]

/-- The name of the remote keeps the whole repository from being listed. Both branches could be:
without that name there is a reference for each. -/
theorem mirrored_is_not_listed :
    Repository.mirrored.snapshot = .ok [] ∧
      Repository.mirrored.branches.map BranchEntry.isListed = [true, true] ∧
      listRefs Repository.mirrored.branches =
        .error ⟨"refs/remotes/mirror/main", "origin"⟩ ∧
      Repository.mirrored.branchView =
        .error (.mismatch ⟨"refs/remotes/mirror/main", "origin"⟩) ∧
      listRefs (Repository.mirrored.branches.map fun entry => { entry with remote := .unknown }) =
        .ok [⟨.head "main", .repeated 1⟩, ⟨.tracking "mirror" "main", .repeated 2⟩] := by
  refine ⟨?_, ?_, ?_, ?_, ?_⟩ <;> cbv

end CommitHeader
