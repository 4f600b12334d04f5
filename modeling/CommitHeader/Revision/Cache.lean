import CommitHeader.Revision

/-!
# Remembered revisions

A lookup in front of another one that remembers its successes. Short and full answers are remembered
apart, failures are not remembered, and what is remembered is never replaced.
-/

namespace CommitHeader

/-- The answers remembered, by what was asked. -/
abbrev Cache := List (Request × Revision)

namespace Cache

def find? (cache : Cache) (request : Request) : Option Revision :=
  List.lookup request cache

/-- The cache with one more answer, for a request that has none yet. -/
def remember (cache : Cache) (request : Request) (revision : Revision) : Cache :=
  (request, revision) :: cache

@[simp] theorem find?_nil (request : Request) : find? [] request = none := rfl

theorem find?_remember (cache : Cache) (request asked : Request) (revision : Revision) :
    (cache.remember request revision).find? asked =
      if asked = request then some revision else cache.find? asked := by
  unfold remember find?
  rw [List.lookup_cons]
  by_cases h : asked = request
  · simp [h]
  · simp [h, beq_eq_false_iff_ne.mpr h]

end Cache

namespace Lookup

variable {σ : Type}

/-- A lookup that asks `inner` only what it does not remember. -/
def cached (inner : Lookup σ) : Lookup (σ × Cache) := fun request state =>
  match state.2.find? request with
  | some revision => (.ok revision, state)
  | none =>
      match inner request state.1 with
      | (.ok revision, next) => (.ok revision, (next, state.2.remember request revision))
      | (.error e, next) => (.error e, (next, state.2))

end Lookup

end CommitHeader
