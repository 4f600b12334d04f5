import CommitHeader.Proofs.Ref.Tracking
import CommitHeader.Ref.Listing

/-!
# Listed references

Every reference of a listing is that of a branch and bears the branch's complete name. Where complete
names differ, a search by name finds the reference that the name means.
-/

namespace CommitHeader

/-! ## One branch -/

namespace BranchEntry

theorem exists_read (entry : BranchEntry) (complete : String) :
    ∃ remote?, entry.name complete = RefName.read complete remote? := by
  unfold BranchEntry.name
  split
  · exact ⟨some _, rfl⟩
  · exact ⟨none, rfl⟩

theorem complete_name {entry : BranchEntry} {complete : String} {name : RefName}
    (h : entry.name complete = .ok name) : name.complete = complete := by
  obtain ⟨remote?, hread⟩ := entry.exists_read complete
  exact RefName.complete_of_read (hread.symm.trans h)

theorem ref?_eq_some {entry : BranchEntry} {ref : Ref} (h : entry.ref? = .ok (some ref)) :
    entry.complete? = some ref.name.complete ∧ entry.target? = some ref.target ∧
      entry.name ref.name.complete = .ok ref.name := by
  unfold ref? at h
  split at h
  · rename_i complete target hcomplete htarget
    cases hname : entry.name complete with
    | error cause => simp [hname, Except.map] at h
    | ok name =>
        simp only [hname, Except.map, Except.ok.injEq, Option.some.injEq] at h
        subst h
        have hsame := complete_name hname
        exact ⟨hsame ▸ hcomplete, htarget, hsame.symm ▸ hname⟩
  · cases h

end BranchEntry

/-! ## The listing -/

theorem listRefs_cons_eq_ok {entry : BranchEntry} {entries : List BranchEntry} {refs : List Ref} :
    listRefs (entry :: entries) = .ok refs ↔
      ∃ ref others, entry.ref? = .ok ref ∧ listRefs entries = .ok others ∧
        refs = ref.toList ++ others := by
  rw [listRefs]
  cases entry.ref? with
  | error cause => simp
  | ok ref =>
      cases listRefs entries with
      | error cause => simp
      | ok others => simp [eq_comm]

theorem exists_entry_of_mem {entries : List BranchEntry} {refs : List Ref} {ref : Ref}
    (h : listRefs entries = .ok refs) (href : ref ∈ refs) :
    ∃ entry ∈ entries, entry.ref? = .ok (some ref) := by
  induction entries generalizing refs with
  | nil =>
      cases h
      cases href
  | cons entry entries ih =>
      obtain ⟨first, others, hfirst, hothers, rfl⟩ := listRefs_cons_eq_ok.mp h
      rcases List.mem_append.mp href with hmem | hmem
      · rw [Option.mem_toList.mp hmem] at hfirst
        exact ⟨entry, List.mem_cons_self, hfirst⟩
      · obtain ⟨other, hother, hof⟩ := ih hothers hmem
        exact ⟨other, List.mem_cons_of_mem _ hother, hof⟩

/-- Every branch with an object of its own is listed. -/
theorem mem_of_ref?_eq_some {entries : List BranchEntry} {refs : List Ref} {entry : BranchEntry}
    {ref : Ref} (h : listRefs entries = .ok refs) (hentry : entry ∈ entries)
    (href : entry.ref? = .ok (some ref)) : ref ∈ refs := by
  induction entries generalizing refs with
  | nil => cases hentry
  | cons first entries ih =>
      obtain ⟨ref?, others, hfirst, hothers, rfl⟩ := listRefs_cons_eq_ok.mp h
      rcases List.mem_cons.mp hentry with rfl | hentry
      · obtain rfl := Except.ok.inj (hfirst.symm.trans href)
        exact List.mem_append_left _ (List.mem_singleton.mpr rfl)
      · exact List.mem_append_right _ (ih hothers hentry)

theorem map_complete_sublist {entries : List BranchEntry} {refs : List Ref}
    (h : listRefs entries = .ok refs) :
    (refs.map fun ref => ref.name.complete).Sublist (entries.filterMap BranchEntry.complete?) := by
  induction entries generalizing refs with
  | nil =>
      cases h
      exact List.Sublist.refl _
  | cons entry entries ih =>
      obtain ⟨first, others, hfirst, hothers, rfl⟩ := listRefs_cons_eq_ok.mp h
      have hrest := ih hothers
      cases first with
      | some ref =>
          rw [List.filterMap_cons_some (BranchEntry.ref?_eq_some hfirst).1]
          exact hrest.cons_cons _
      | none =>
          cases hcomplete : entry.complete? with
          | some complete =>
              rw [List.filterMap_cons_some hcomplete]
              exact hrest.cons _
          | none =>
              rw [List.filterMap_cons_none hcomplete]
              exact hrest

/-- A listed remote-tracking branch has a remote. -/
theorem remoteName_ne_empty {entries : List BranchEntry} {refs : List Ref} {ref : Ref}
    (h : listRefs entries = .ok refs) (href : ref ∈ refs) (hremote : ref.name.isRemote) :
    ref.name.remoteName ≠ "" := by
  obtain ⟨entry, -, hentry⟩ := exists_entry_of_mem h href
  obtain ⟨-, -, hname⟩ := BranchEntry.ref?_eq_some hentry
  obtain ⟨remote?, hread⟩ := entry.exists_read ref.name.complete
  exact RefName.remoteName_ne_empty_of_read (hread.symm.trans hname) hremote

/-! ## Search by name -/

theorem mem_of_findRef?_eq_some {refs : List Ref} {name directory : String} {ref : Ref}
    (h : findRef? refs name directory = some ref) : ref ∈ refs := by
  unfold findRef? at h
  split at h
  · rename_i hfind
    cases h
    exact List.mem_of_find?_eq_some hfind
  · exact List.mem_of_find?_eq_some h

/-- The reference that a name means in a listing: the one with this complete name, or if there is
none the one of this name within a directory. -/
def Means (refs : List Ref) (name directory : String) (ref : Ref) : Prop :=
  ref ∈ refs ∧ (ref.name.complete = name ∨
    (∀ other ∈ refs, other.name.complete ≠ name) ∧ ref.name.complete = directory ++ name)

theorem find?_complete_eq_some_iff {refs : List Ref}
    (hdistinct : (refs.map fun ref => ref.name.complete).Nodup) {name : String} {ref : Ref} :
    refs.find? (fun ref => ref.name.complete = name) = some ref ↔
      ref ∈ refs ∧ ref.name.complete = name := by
  rw [find?_eq_some_iff_of_unique hdistinct, decide_eq_true_eq]
  intro first second hfirst hsecond
  exact (of_decide_eq_true hfirst).trans (of_decide_eq_true hsecond).symm

theorem findRef?_eq_some_iff {refs : List Ref}
    (hdistinct : (refs.map fun ref => ref.name.complete).Nodup) {name directory : String}
    {ref : Ref} : findRef? refs name directory = some ref ↔ Means refs name directory ref := by
  unfold findRef? Means
  cases hfind : refs.find? (fun ref => ref.name.complete = name) with
  | some found =>
      obtain ⟨hmem, hname⟩ := (find?_complete_eq_some_iff hdistinct).mp hfind
      dsimp only
      rw [← hfind, find?_complete_eq_some_iff hdistinct]
      constructor
      · intro h
        obtain ⟨href, hrefName⟩ := h
        exact ⟨href, Or.inl hrefName⟩
      · intro h
        obtain ⟨href, hrefName | ⟨hnone, -⟩⟩ := h
        · exact ⟨href, hrefName⟩
        · exact absurd hname (hnone found hmem)
  | none =>
      have hnone : ∀ other ∈ refs, other.name.complete ≠ name := by
        intro other hother
        simpa using List.find?_eq_none.mp hfind other hother
      dsimp only
      rw [find?_complete_eq_some_iff hdistinct]
      constructor
      · intro h
        obtain ⟨href, hname⟩ := h
        exact ⟨href, Or.inr ⟨hnone, hname⟩⟩
      · intro h
        obtain ⟨href, hname | ⟨-, hname⟩⟩ := h
        · exact absurd hname (hnone ref href)
        · exact ⟨href, hname⟩

end CommitHeader
