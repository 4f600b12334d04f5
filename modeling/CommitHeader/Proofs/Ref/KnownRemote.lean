import CommitHeader.Proofs.Ref.Kind

/-!
# Names with a known remote

The remote of a remote-tracking branch is known, or it is guessed to be the first segment of the
path. Both give the same name where the known remote is a single segment. A longer one begins with
the guess, and the guessed short name ends in the true one; if it begins with a slash, there is
nothing to guess.
-/

namespace CommitHeader.RefName

/-! ## Where a known remote leads the path -/

theorem belongsTo_iff {complete remote : String} :
    BelongsTo complete remote ↔
      remote ≠ "" ∧ ("refs/remotes/" ++ remote ++ "/").toList <+: complete.toList := by
  refine and_congr_right fun _ => ?_
  constructor
  · rintro ⟨short, rfl⟩
    exact ⟨short.toList, (String.toList_append ..).symm⟩
  · rintro ⟨short, hshort⟩
    refine ⟨String.ofList short, String.ext ?_⟩
    rw [String.toList_append, String.toList_ofList]
    exact hshort.symm

theorem exists_ofRemote_iff {complete remote : String} :
    (∃ name, ofRemote complete remote = .ok name) ↔ BelongsTo complete remote := by
  simp only [ofRemote_eq_ok_iff, BelongsTo]
  constructor
  · rintro ⟨_, hne, short, -, hcomplete⟩
    exact ⟨hne, short, hcomplete⟩
  · rintro ⟨hne, short, hcomplete⟩
    exact ⟨_, hne, short, rfl, hcomplete⟩

/-! ## The guess beside the known remote -/

section Guess

variable {complete remote : String} {name : RefName}

theorem ofComplete_of_ofRemote (h : ofRemote complete remote = .ok name)
    (hslash : '/' ∉ remote.toList) : ofComplete complete = name := by
  obtain ⟨hne, short, rfl, hcomplete⟩ := ofRemote_eq_ok_iff.mp h
  exact ofComplete_eq_tracking_iff.mpr ⟨hne, hslash, hcomplete⟩

theorem ofRemote_remoteName (h : (ofComplete complete).isRemote) :
    ofRemote complete (ofComplete complete).remoteName = .ok (ofComplete complete) := by
  have hname := eq_tracking_of_isRemote h
  obtain ⟨hne, -, hcomplete⟩ := ofComplete_eq_tracking_iff.mp hname
  exact ofRemote_eq_ok_iff.mpr ⟨hne, _, hname, hcomplete⟩

/-- The remote of one name is the beginning of that of another one, and the segments that it lacks
are at the front of its short name. -/
structure StopsShortOf (guess name : RefName) : Prop where
  remoteName_prefix : guess.remoteName.toList <+: name.remoteName.toList
  remoteName_ne : guess.remoteName ≠ name.remoteName
  short_suffix : name.short.toList <:+ guess.short.toList
  short_ne : name.short ≠ guess.short

theorem stopsShortOf_tracking (first rest short : String) :
    StopsShortOf (.tracking first (rest ++ "/" ++ short))
      (.tracking (first ++ "/" ++ rest) short) where
  remoteName_prefix := ⟨("/" ++ rest).toList, by simp [remoteName, remote?, String.append_assoc]⟩
  remoteName_ne h := by
    have hlength := congrArg String.length h
    simp only [remoteName, remote?, Option.getD_some, String.length_append] at hlength
    have hslash : "/".length = 1 := rfl
    omega
  short_suffix := ⟨(rest ++ "/").toList, by simp [RefName.short]⟩
  short_ne h := by
    have hlength := congrArg String.length h
    simp only [RefName.short, String.length_append] at hlength
    have hslash : "/".length = 1 := rfl
    omega

/-- A remote of several segments, cut after the first one. -/
theorem exists_firstSegment (h : '/' ∈ remote.toList) :
    ∃ first rest, remote = first ++ "/" ++ rest ∧ '/' ∉ first.toList := by
  obtain ⟨before, after, hremote, hslash⟩ := List.eq_append_cons_of_mem h
  refine ⟨String.ofList before, String.ofList after, String.ext ?_, by simpa using hslash⟩
  simpa using hremote

theorem head?_ne_slash {segment : String} (hne : segment ≠ "") (hslash : '/' ∉ segment.toList)
    (rest : String) : (segment ++ rest).toList.head? ≠ some '/' := by
  rw [String.toList_append]
  cases hchars : segment.toList with
  | nil => exact absurd (String.toList_eq_nil_iff.mp hchars) hne
  | cons c cs =>
      rw [hchars] at hslash
      simpa using (List.ne_of_not_mem_cons hslash).symm

/-- A remote of several segments begins with the guess, unless its first segment is empty: then
nothing is guessed. -/
theorem guess_of_ofRemote (h : ofRemote complete remote = .ok name) (hslash : '/' ∈ remote.toList) :
    (remote.toList.head? = some '/' ∧ ofComplete complete = .other complete) ∨
      (remote.toList.head? ≠ some '/' ∧ (ofComplete complete).isRemote ∧
        StopsShortOf (ofComplete complete) name) := by
  obtain ⟨-, short, rfl, hcomplete⟩ := ofRemote_eq_ok_iff.mp h
  obtain ⟨first, rest, rfl, hfirst⟩ := exists_firstSegment hslash
  simp only [String.append_assoc] at hcomplete
  by_cases hempty : first = ""
  · left
    subst hempty
    have hhead : ("/" ++ (rest ++ ("/" ++ short))).toList.head? = some '/' := by simp
    refine ⟨by simp, ?_⟩
    rw [hcomplete, String.empty_append]
    apply ofComplete_remotes_eq_other
    intro guess more hne hguess hpath
    rw [hpath, String.append_assoc] at hhead
    exact head?_ne_slash hne hguess _ hhead
  · right
    have hguess : ofComplete complete = .tracking first (rest ++ "/" ++ short) := by
      refine ofComplete_eq_tracking_iff.mpr ⟨hempty, hfirst, ?_⟩
      rw [hcomplete]
      simp only [String.append_assoc]
    rw [hguess]
    refine ⟨?_, rfl, stopsShortOf_tracking first rest short⟩
    rw [String.append_assoc]
    exact head?_ne_slash hempty hfirst _

end Guess

/-! ## Both ways -/

/-- A known remote gives a name exactly if it leads the path, and is told with the complete name
otherwise. A known remote of one segment gives the name that is read without it, and the remote of a
name that is read gives this name again. Of a longer remote the name that is read has the beginning,
and at the front of its short name what is missing. -/
theorem known_remote_agrees_with_guess (complete remote : String) :
    ((∃ name, ofRemote complete remote = .ok name) ↔
      remote ≠ "" ∧ ("refs/remotes/" ++ remote ++ "/").toList <+: complete.toList) ∧
    (∀ mismatch, ofRemote complete remote = .error mismatch ↔
      ¬ (remote ≠ "" ∧ ("refs/remotes/" ++ remote ++ "/").toList <+: complete.toList) ∧
        mismatch = ⟨complete, remote⟩) ∧
    (∀ name, ofRemote complete remote = .ok name →
      name.complete = complete ∧ name.remote? = some remote ∧
      ('/' ∉ remote.toList → ofComplete complete = name) ∧
      ('/' ∈ remote.toList →
        ((ofComplete complete).isRemote ↔ remote.toList.head? ≠ some '/') ∧
        ((ofComplete complete).isRemote → StopsShortOf (ofComplete complete) name))) ∧
    ((ofComplete complete).isRemote →
      ofRemote complete (ofComplete complete).remoteName = .ok (ofComplete complete)) := by
  rw [← belongsTo_iff]
  refine ⟨exists_ofRemote_iff, fun mismatch => ofRemote_eq_error_iff, ?_, ofRemote_remoteName⟩
  intro name h
  have hread : read complete (some remote) = .ok name := h
  have hcomplete : name.complete = complete := complete_of_read hread
  have hremote : name.remote? = some remote := by
    obtain ⟨-, short, rfl, -⟩ := ofRemote_eq_ok_iff.mp h
    rfl
  refine ⟨hcomplete, hremote, ofComplete_of_ofRemote h, ?_⟩
  intro hslash
  rcases guess_of_ofRemote h hslash with ⟨hhead, hother⟩ | ⟨hhead, hguess, hshort⟩
  · simp [hhead, hother, isRemote]
  · exact ⟨iff_of_true hguess hhead, fun _ => hshort⟩

theorem known_remote_agrees_with_guess_sample :
    ofRemote "refs/remotes/team/core/main" "team/core" = .ok (.tracking "team/core" "main") ∧
      ofComplete "refs/remotes/team/core/main" = .tracking "team" "core/main" ∧
      StopsShortOf (.tracking "team" "core/main") (.tracking "team/core" "main") := by
  have hguess : ofComplete "refs/remotes/team/core/main" = .tracking "team" "core/main" := by
    decide +kernel
  obtain ⟨-, -, hknown, -⟩ :=
    known_remote_agrees_with_guess "refs/remotes/team/core/main" "team/core"
  obtain ⟨-, -, -, hlong⟩ := hknown _ read_team_core_main
  refine ⟨read_team_core_main, hguess, ?_⟩
  rw [← hguess]
  exact (hlong (by decide)).2 (by rw [hguess]; rfl)

end CommitHeader.RefName
