import CommitHeader.Repository.Config

/-!
# Snapshots of a configuration

A snapshot answers for the keys that it was taken of as the configuration does, and has nothing for
other keys.
-/

namespace CommitHeader

/-- The value in an answer. -/
def ConfigAnswer.value? : ConfigAnswer → Option String
  | .value text => some text
  | .absent | .failed => none

@[simp] theorem Config.value?_answer (config : Config) (key : String) :
    (config.answer key).value? = config.value? key := by
  unfold answer
  cases config.value? key <;> rfl

namespace ConfigSnapshot

theorem lookup_cons_eq (entry : String × String) (snapshot : ConfigSnapshot) (key : String) :
    List.lookup key (entry :: snapshot) =
      if key = entry.1 then some entry.2 else List.lookup key snapshot := by
  rw [List.lookup_cons]
  by_cases h : key = entry.1
  · simp [h]
  · simp [h, beq_eq_false_iff_ne.mpr h]

/-- What a snapshot holds of a key: what reading the key gave if it was one of the keys, and
otherwise what was there before. A key without a value leaves what was there. -/
theorem lookup_of_capture {read : String → ConfigAnswer} {keys : List String}
    {before after : ConfigSnapshot} (h : capture read keys before = .ok after) (key : String) :
    List.lookup key after =
      if key ∈ keys then (read key).value?.or (List.lookup key before)
      else List.lookup key before := by
  induction keys generalizing before with
  | nil =>
      cases h
      simp
  | cons first keys ih =>
      unfold capture at h
      split at h
      · rename_i text htext
        rw [ih h, lookup_cons_eq]
        by_cases hkey : key = first
        · subst hkey
          simp [htext, ConfigAnswer.value?]
        · simp [hkey]
      · rename_i habsent
        rw [ih h]
        by_cases hkey : key = first
        · subst hkey
          simp [habsent, ConfigAnswer.value?]
        · simp [hkey]
      · cases h

theorem value_of_capture {read : String → ConfigAnswer} {keys : List String}
    {snapshot : ConfigSnapshot} (h : capture read keys [] = .ok snapshot) (key : String) :
    snapshot.value key = if key ∈ keys then (read key).value?.getD "" else "" := by
  unfold ConfigSnapshot.value
  rw [lookup_of_capture h]
  split <;> simp

theorem mem_keysOf {branches : List String} {key : String} :
    key ∈ keysOf branches ↔ ∃ name ∈ branches, key = mergeKey name ∨ key = remoteKey name := by
  simp [keysOf]

/-- A snapshot of branches gives for their keys what the configuration gives, and the empty text
where that has nothing. -/
theorem value_of_ofBranches {branches : List (Option String)} {read : String → ConfigAnswer}
    {snapshot : ConfigSnapshot} (h : ofBranches branches read = .ok snapshot) {name key : String}
    (hname : some name ∈ branches) (hkey : key = mergeKey name ∨ key = remoteKey name) :
    snapshot.value key = (read key).value?.getD "" := by
  have hmem : key ∈ keysOf (branches.filterMap id) :=
    mem_keysOf.mpr ⟨name, by simpa using hname, hkey⟩
  rw [value_of_capture h, if_pos hmem]

end ConfigSnapshot

end CommitHeader
