import CommitHeader.Proofs.Text.Cut
import CommitHeader.Ref.Name

/-!
# Names of references, read and written

A name is read from a complete name and loses nothing of it: written out again it is the complete
name. The remote of a name that was read is never empty.
-/

namespace CommitHeader.RefName

/-! ## Complete names -/

theorem splitSegment?_eq_some_iff {path remote name : String} :
    splitSegment? path = some (remote, name) ↔
      path = remote ++ "/" ++ name ∧ '/' ∉ remote.toList := by
  constructor
  · intro h
    obtain ⟨⟨before, after⟩, hcut, heq⟩ := Option.map_eq_some_iff.mp h
    cases heq
    obtain ⟨hpath, hslash⟩ := Text.cutFirst?_eq_some_iff.mp hcut
    refine ⟨?_, by simpa using hslash⟩
    apply String.ext
    simpa using hpath
  · rintro ⟨rfl, hslash⟩
    have hcut : Text.cutFirst? '/' (remote ++ "/" ++ name).toList =
        some (remote.toList, name.toList) :=
      Text.cutFirst?_eq_some_iff.mpr ⟨by simp, hslash⟩
    rw [splitSegment?, hcut]
    simp

/-- A complete name below the directory of remote-tracking branches, cut after the first segment. -/
theorem firstSegment_eq_some_iff {complete remote short : String} :
    (Text.afterLead? remotesDirectory complete).bind splitSegment? = some (remote, short) ↔
      '/' ∉ remote.toList ∧ complete = remotesDirectory ++ remote ++ "/" ++ short := by
  rw [Option.bind_eq_some_iff]
  constructor
  · rintro ⟨path, hpath, hsegment⟩
    obtain ⟨rfl, hslash⟩ := splitSegment?_eq_some_iff.mp hsegment
    refine ⟨hslash, ?_⟩
    rw [Text.afterLead?_eq_some_iff.mp hpath]
    simp only [String.append_assoc]
  · rintro ⟨hslash, rfl⟩
    refine ⟨remote ++ "/" ++ short, ?_, splitSegment?_eq_some_iff.mpr ⟨rfl, hslash⟩⟩
    apply Text.afterLead?_eq_some_iff.mpr
    simp only [String.append_assoc]

theorem ofTracking?_eq_some_iff {complete : String} {name : RefName} :
    ofTracking? complete = some name ↔
      ∃ remote short, remote ≠ "" ∧ '/' ∉ remote.toList ∧
        complete = remotesDirectory ++ remote ++ "/" ++ short ∧ name = .tracking remote short := by
  constructor
  · intro h
    unfold ofTracking? at h
    split at h
    · rename_i remote short hsplit
      obtain ⟨hslash, hcomplete⟩ := firstSegment_eq_some_iff.mp hsplit
      by_cases hempty : remote.isEmpty
      · simp [hempty] at h
      · rw [if_neg hempty] at h
        cases h
        exact ⟨remote, short, fun hremote => hempty (String.isEmpty_iff.mpr hremote), hslash,
          hcomplete, rfl⟩
    · cases h
  · rintro ⟨remote, short, hne, hslash, hcomplete, rfl⟩
    have hempty : ¬ remote.isEmpty = true := fun h => hne (String.isEmpty_iff.mp h)
    rw [ofTracking?, firstSegment_eq_some_iff.mpr ⟨hslash, hcomplete⟩]
    exact if_neg hempty

theorem complete_ofTagPath (path : String) : (ofTagPath path).complete = tagsDirectory ++ path := by
  unfold ofTagPath
  split
  · rename_i name hname
    rw [Text.beforeTail?_eq_some_iff.mp hname]
    simp [RefName.complete, String.append_assoc]
  · simp [RefName.complete]

theorem complete_ofComplete (complete : String) : (ofComplete complete).complete = complete := by
  unfold ofComplete
  split
  · rename_i name hname
    obtain ⟨_, _, -, -, rfl, rfl⟩ := ofTracking?_eq_some_iff.mp hname
    rfl
  · split
    · rename_i name hname
      exact (Text.afterLead?_eq_some_iff.mp hname).symm
    · split
      · rename_i path hpath
        rw [complete_ofTagPath]
        exact (Text.afterLead?_eq_some_iff.mp hpath).symm
      · rfl

theorem ofComplete_eq_tracking_iff {complete remote short : String} :
    ofComplete complete = .tracking remote short ↔
      remote ≠ "" ∧ '/' ∉ remote.toList ∧
        complete = remotesDirectory ++ remote ++ "/" ++ short := by
  constructor
  · intro h
    unfold ofComplete at h
    split at h
    · rename_i name hname
      obtain ⟨_, _, hne, hslash, hcomplete, heq⟩ := ofTracking?_eq_some_iff.mp hname
      rw [h] at heq
      cases heq
      exact ⟨hne, hslash, hcomplete⟩
    · split at h
      · cases h
      · split at h
        · unfold ofTagPath at h
          split at h <;> cases h
        · cases h
  · rintro ⟨hne, hslash, hcomplete⟩
    rw [ofComplete, ofTracking?_eq_some_iff.mpr ⟨remote, short, hne, hslash, hcomplete, rfl⟩]

/-- A complete name lies in the directory of a remote. -/
def BelongsTo (complete remote : String) : Prop :=
  remote ≠ "" ∧ ∃ short, complete = remotesDirectory ++ remote ++ "/" ++ short

theorem ofRemote_eq_ok_iff {complete remote : String} {name : RefName} :
    ofRemote complete remote = .ok name ↔
      remote ≠ "" ∧ ∃ short, name = .tracking remote short ∧
        complete = remotesDirectory ++ remote ++ "/" ++ short := by
  constructor
  · intro h
    unfold ofRemote at h
    by_cases hempty : remote.isEmpty
    · simp [hempty] at h
    · rw [if_neg hempty] at h
      dsimp only at h
      split at h
      · rename_i short hshort
        cases h
        exact ⟨fun hremote => hempty (String.isEmpty_iff.mpr hremote), short, rfl,
          Text.afterLead?_eq_some_iff.mp hshort⟩
      · cases h
  · rintro ⟨hne, short, rfl, hcomplete⟩
    have hafter := Text.afterLead?_eq_some_iff.mpr hcomplete
    have hempty : ¬ remote.isEmpty = true := fun h => hne (String.isEmpty_iff.mp h)
    rw [ofRemote, if_neg hempty, hafter]

theorem ofRemote_eq_error_iff {complete remote : String} {mismatch : Mismatch} :
    ofRemote complete remote = .error mismatch ↔
      ¬ BelongsTo complete remote ∧ mismatch = ⟨complete, remote⟩ := by
  cases hname : ofRemote complete remote with
  | ok name =>
      obtain ⟨hne, short, -, hcomplete⟩ := ofRemote_eq_ok_iff.mp hname
      simp [BelongsTo, hne, hcomplete]
  | error cause =>
      have hcause : cause = ⟨complete, remote⟩ := by
        unfold ofRemote at hname
        dsimp only at hname
        split at hname
        · cases hname
        · exact (Except.error.inj hname).symm
      have hbelongs : ¬ BelongsTo complete remote := by
        rintro ⟨hne, short, hcomplete⟩
        rw [ofRemote_eq_ok_iff.mpr ⟨hne, short, rfl, hcomplete⟩] at hname
        cases hname
      rw [hcause]
      simp [hbelongs, eq_comm]

/-! ## Directories -/

theorem afterLead?_remotes_heads (short : String) :
    Text.afterLead? remotesDirectory (headsDirectory ++ short) = none :=
  Text.afterLead?_append_eq_none (by decide) (by decide) short

theorem ofComplete_heads (short : String) :
    ofComplete (headsDirectory ++ short) = .head short := by
  rw [ofComplete, ofTracking?, afterLead?_remotes_heads]
  dsimp only [Option.bind_none]
  rw [Text.afterLead?_append]

theorem ofComplete_tags (path : String) :
    ofComplete (tagsDirectory ++ path) = ofTagPath path := by
  have hremotes : Text.afterLead? remotesDirectory (tagsDirectory ++ path) = none :=
    Text.afterLead?_append_eq_none (by decide) (by decide) path
  have hheads : Text.afterLead? headsDirectory (tagsDirectory ++ path) = none :=
    Text.afterLead?_append_eq_none (by decide) (by decide) path
  rw [ofComplete, ofTracking?, hremotes, hheads]
  dsimp only [Option.bind_none]
  rw [Text.afterLead?_append]

/-- A path without a first segment and a slash behind it belongs to no remote. -/
theorem ofComplete_remotes_eq_other {path : String}
    (h : ∀ remote short, remote ≠ "" → '/' ∉ remote.toList → path ≠ remote ++ "/" ++ short) :
    ofComplete (remotesDirectory ++ path) = .other (remotesDirectory ++ path) := by
  have hremotes : ofTracking? (remotesDirectory ++ path) = none := by
    rw [Option.eq_none_iff_forall_ne_some]
    intro name hname
    obtain ⟨remote, short, hne, hslash, hcomplete, -⟩ := ofTracking?_eq_some_iff.mp hname
    rw [String.append_assoc, String.append_assoc, String.append_right_inj,
      ← String.append_assoc] at hcomplete
    exact h remote short hne hslash hcomplete
  have hheads : Text.afterLead? headsDirectory (remotesDirectory ++ path) = none :=
    Text.afterLead?_append_eq_none (by decide) (by decide) path
  have htags : Text.afterLead? tagsDirectory (remotesDirectory ++ path) = none :=
    Text.afterLead?_append_eq_none (by decide) (by decide) path
  rw [ofComplete, hremotes, hheads, htags]

theorem heads_append_ne {text : String} (h : text.toList.head? ≠ some 'r') (short : String) :
    headsDirectory ++ short ≠ text := by
  rintro rfl
  rw [String.toList_append] at h
  exact h rfl

theorem heads_append_ne_empty (short : String) : headsDirectory ++ short ≠ "" :=
  heads_append_ne (by decide) short

theorem ne_heads_append (short : String) : short ≠ headsDirectory ++ short := by
  intro h
  have hlength := congrArg String.length h
  simp [headsDirectory] at hlength

/-! ## Kinds -/

theorem eq_head_of_isHead {name : RefName} (h : name.isHead) : name = .head name.short := by
  cases name with
  | head short => rfl
  | _ => simp [isHead] at h

theorem eq_tracking_of_isRemote {name : RefName} (h : name.isRemote) :
    name = .tracking name.remoteName name.short := by
  cases name with
  | tracking remote short => rfl
  | _ => simp [isRemote] at h

end CommitHeader.RefName
