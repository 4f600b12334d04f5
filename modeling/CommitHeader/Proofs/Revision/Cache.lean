import CommitHeader.Proofs.Header.Questions
import CommitHeader.Revision.Cache

/-!
# What is remembered

A lookup that remembers its successes is told here by the history of its answers. At any time it
holds the first success of every request and nothing else, so it passes a request on exactly if that
very request, id and format, has not succeeded yet. In front of a lookup that always gives the same
answers it makes no difference.
-/

namespace CommitHeader

variable {σ τ : Type}

namespace Lookup

/-- The state that some requests leave a lookup in. -/
def after (lookup : Lookup σ) (requests : List Request) (state : σ) : σ :=
  requests.foldl (fun state request => (lookup request state).2) state

/-- Some requests, each with what a lookup says to it. -/
def history (lookup : Lookup σ) (requests : List Request) (state : σ) : List (Request × Answer) :=
  requests.zip (lookup.answers requests state)

/-- The first success of a request in a history. -/
def firstSuccess? (history : List (Request × Answer)) (request : Request) : Option Revision :=
  history.findSome? fun exchange =>
    if exchange.1 = request then exchange.2.toOption else none

theorem history_cons (lookup : Lookup σ) (request : Request) (requests : List Request)
    (state : σ) :
    lookup.history (request :: requests) state =
      (request, (lookup request state).1) ::
        lookup.history requests (lookup request state).2 :=
  rfl

theorem firstSuccess?_cons_ok (request other : Request) (revision : Revision)
    (history : List (Request × Answer)) :
    firstSuccess? ((request, .ok revision) :: history) other =
      if request = other then some revision else firstSuccess? history other := by
  unfold firstSuccess?
  by_cases h : request = other <;> simp [h, Except.toOption]

theorem firstSuccess?_cons_error (request other : Request) (cause : LookupError)
    (history : List (Request × Answer)) :
    firstSuccess? ((request, .error cause) :: history) other = firstSuccess? history other := by
  unfold firstSuccess?
  by_cases h : request = other <;> simp [h, Except.toOption]

/-- A request without a first success has no success at all. -/
theorem firstSuccess?_eq_none_iff {history : List (Request × Answer)} {request : Request} :
    firstSuccess? history request = none ↔ ∀ revision, (request, .ok revision) ∉ history := by
  unfold firstSuccess?
  rw [List.findSome?_eq_none_iff]
  constructor
  · intro h revision hmem
    simpa [Except.toOption] using h _ hmem
  · rintro h ⟨asked, answer⟩ hmem
    by_cases hasked : asked = request
    · subst hasked
      cases answer with
      | error cause => simp [Except.toOption]
      | ok revision => exact absurd hmem (h revision)
    · exact if_neg hasked

theorem exists_firstSuccess?_iff {history : List (Request × Answer)} {request : Request} :
    (∃ revision, firstSuccess? history request = some revision) ↔
      ∃ revision, (request, .ok revision) ∈ history := by
  rw [← Option.ne_none_iff_exists', ne_eq, firstSuccess?_eq_none_iff]
  simp

/-! ## One request -/

theorem cached_of_remembered {inner : Lookup σ} {request : Request} {state : σ} {cache : Cache}
    {revision : Revision} (h : cache.find? request = some revision) :
    inner.cached request (state, cache) = (.ok revision, (state, cache)) := by
  unfold cached
  dsimp only
  rw [h]

theorem cached_of_new {inner : Lookup σ} {request : Request} {state : σ} {cache : Cache}
    (h : cache.find? request = none) :
    inner.cached request (state, cache) =
      ((inner request state).1, (inner request state).2,
        match (inner request state).1 with
        | .ok revision => cache.remember request revision
        | .error _ => cache) := by
  unfold cached
  dsimp only
  rw [h]
  rcases inner request state with ⟨answer, next⟩
  cases answer <;> rfl

theorem cached_of_ok {inner : Lookup σ} {request : Request} {state : σ} {cache : Cache}
    {revision : Revision} (h : cache.find? request = none)
    (hanswer : (inner request state).1 = .ok revision) :
    inner.cached request (state, cache) =
      (.ok revision, ((inner request state).2, cache.remember request revision)) := by
  rw [cached_of_new h, hanswer]

theorem cached_of_error {inner : Lookup σ} {request : Request} {state : σ} {cache : Cache}
    {cause : LookupError} (h : cache.find? request = none)
    (hanswer : (inner request state).1 = .error cause) :
    inner.cached request (state, cache) = (.error cause, ((inner request state).2, cache)) := by
  rw [cached_of_new h, hanswer]

/-- What can happen to a request: it is remembered, or the inner lookup succeeds and its answer is
remembered, or the inner lookup fails and nothing is. -/
theorem cached_cases (inner : Lookup σ) (request : Request) (state : σ) (cache : Cache) :
    (∃ revision, cache.find? request = some revision ∧
      inner.cached request (state, cache) = (.ok revision, (state, cache))) ∨
    (∃ revision, cache.find? request = none ∧ (inner request state).1 = .ok revision ∧
      inner.cached request (state, cache) =
        (.ok revision, ((inner request state).2, cache.remember request revision))) ∨
    (∃ cause, cache.find? request = none ∧ (inner request state).1 = .error cause ∧
      inner.cached request (state, cache) =
        (.error cause, ((inner request state).2, cache))) := by
  cases hfind : cache.find? request with
  | some revision => exact .inl ⟨revision, rfl, cached_of_remembered hfind⟩
  | none =>
      cases hanswer : (inner request state).1 with
      | ok revision => exact .inr (.inl ⟨revision, rfl, rfl, cached_of_ok hfind hanswer⟩)
      | error cause => exact .inr (.inr ⟨cause, rfl, rfl, cached_of_error hfind hanswer⟩)

/-! ## A run of requests -/

/-- What is remembered after some requests: what was remembered before, and else the first
success. -/
theorem find?_after (inner : Lookup σ) (requests : List Request) (state : σ) (cache : Cache)
    (request : Request) :
    (inner.cached.after requests (state, cache)).2.find? request =
      (cache.find? request).or
        (firstSuccess? (inner.cached.history requests (state, cache)) request) := by
  induction requests generalizing state cache with
  | nil => simp [after, history, firstSuccess?]
  | cons asked requests ih =>
      rw [history_cons]
      have hafter : inner.cached.after (asked :: requests) (state, cache) =
          inner.cached.after requests (inner.cached asked (state, cache)).2 := rfl
      rw [hafter]
      rcases cached_cases inner asked state cache with
        ⟨revision, hfind, hstep⟩ | ⟨revision, hfind, -, hstep⟩ | ⟨cause, hfind, -, hstep⟩
      · rw [hstep, ih, firstSuccess?_cons_ok]
        by_cases h : asked = request
        · subst h
          simp [hfind]
        · rw [if_neg h]
      · rw [hstep, ih, firstSuccess?_cons_ok, Cache.find?_remember]
        by_cases h : asked = request
        · subst h
          simp [hfind]
        · rw [if_neg h, if_neg (Ne.symm h)]
      · rw [hstep, ih, firstSuccess?_cons_error]

/-- A new cache comes to hold the first success of every request. -/
theorem find?_after_nil (inner : Lookup σ) (requests : List Request) (state : σ)
    (request : Request) :
    (inner.cached.after requests (state, [])).2.find? request =
      firstSuccess? (inner.cached.history requests (state, [])) request := by
  rw [find?_after, Cache.find?_nil, Option.none_or]

/-- Keeping what the inner lookup is asked changes no answer. -/
theorem answers_cached_logged (inner : Lookup σ) (requests : List Request) (state : σ)
    (log : List Request) (cache : Cache) :
    inner.logged.cached.answers requests ((state, log), cache) =
      inner.cached.answers requests (state, cache) := by
  induction requests generalizing state log cache with
  | nil => rfl
  | cons request requests ih =>
      simp only [answers]
      rcases cached_cases inner request state cache with
        ⟨revision, hfind, hstep⟩ | ⟨revision, hfind, hanswer, hstep⟩ |
          ⟨cause, hfind, hanswer, hstep⟩
      · rw [hstep, cached_of_remembered hfind, ih]
      · have hlogged : (inner.logged request (state, log)).1 = .ok revision := hanswer
        rw [hstep, cached_of_ok hfind hlogged]
        exact congrArg _ (ih _ _ _)
      · have hlogged : (inner.logged request (state, log)).1 = .error cause := hanswer
        rw [hstep, cached_of_error hfind hlogged]
        exact congrArg _ (ih _ _ _)

/-! ## Steady lookups -/

/-- From a state on, a lookup answers as a function does, whatever it is asked. -/
def AnswersBy (lookup : Lookup σ) (state : σ) (answer : Request → Answer) : Prop :=
  ∀ requests, lookup.answers requests state = requests.map answer

theorem AnswersBy.eq {lookup : Lookup σ} {state : σ} {answer : Request → Answer}
    (h : lookup.AnswersBy state answer) (request : Request) :
    (lookup request state).1 = answer request :=
  (List.cons.inj (h [request])).1

theorem AnswersBy.next {lookup : Lookup σ} {state : σ} {answer : Request → Answer}
    (h : lookup.AnswersBy state answer) (request : Request) :
    lookup.AnswersBy (lookup request state).2 answer :=
  fun requests => (List.cons.inj (h (request :: requests))).2

theorem AnswersBy.after {lookup : Lookup σ} {state : σ} {answer : Request → Answer}
    (h : lookup.AnswersBy state answer) (requests : List Request) :
    lookup.AnswersBy (lookup.after requests state) answer := by
  induction requests generalizing state with
  | nil => exact h
  | cons request requests ih => exact ih (h.next request)

/-- Remembering the answers of a steady lookup makes no difference, as long as only such answers are
remembered. -/
theorem AnswersBy.cached {inner : Lookup σ} {state : σ} {answer : Request → Answer}
    (h : inner.AnswersBy state answer) {cache : Cache}
    (hcache : ∀ request revision, cache.find? request = some revision →
      answer request = .ok revision) :
    inner.cached.AnswersBy (state, cache) answer := by
  intro requests
  induction requests generalizing state cache with
  | nil => rfl
  | cons request requests ih =>
      simp only [answers, List.map_cons]
      rcases cached_cases inner request state cache with
        ⟨revision, hfind, hstep⟩ | ⟨revision, hfind, hanswer, hstep⟩ |
          ⟨cause, hfind, hanswer, hstep⟩
      · rw [hstep, ih h hcache, hcache request revision hfind]
      · rw [h.eq] at hanswer
        have hremembered : ∀ other found,
            (cache.remember request revision).find? other = some found →
              answer other = .ok found := by
          intro other found hfound
          rw [Cache.find?_remember] at hfound
          by_cases hsame : other = request
          · rw [if_pos hsame] at hfound
            rw [hsame, hanswer, Option.some.inj hfound]
          · rw [if_neg hsame] at hfound
            exact hcache other found hfound
        rw [hstep, ih (h.next request) hremembered, hanswer]
      · rw [h.eq] at hanswer
        rw [hstep, ih (h.next request) hcache, hanswer]

end Lookup

namespace HeaderStyle

open Lookup

/-- Lookups that answer alike are resolved alike. -/
theorem resolve_congr {first : Lookup σ} {second : Lookup τ} {state : σ} {other : τ}
    {answer : Request → Answer} (hfirst : first.AnswersBy state answer)
    (hsecond : second.AnswersBy other answer) (ids : List ObjectId) :
    (resolve first ids state).1 = (resolve second ids other).1 := by
  induction ids generalizing state other with
  | nil => rfl
  | cons id ids ih =>
      have hone := hfirst.eq ⟨id, true⟩
      have htwo := hsecond.eq ⟨id, true⟩
      cases hanswer : answer ⟨id, true⟩ with
      | error cause =>
          rw [hanswer] at hone htwo
          rw [resolve_cons_error ids hone, resolve_cons_error ids htwo]
      | ok revision =>
          rw [hanswer] at hone htwo
          rw [resolve_cons_ok ids hone, resolve_cons_ok ids htwo]
          exact congrArg (Except.map _) (ih (hfirst.next _) (hsecond.next _))

/-- Lookups that answer alike make the same header. -/
theorem render_congr {first : Lookup σ} {second : Lookup τ} {state : σ} {other : τ}
    {answer : Request → Answer} (hfirst : first.AnswersBy state answer)
    (hsecond : second.AnswersBy other answer) (style : HeaderStyle) (now : Calendar.Instant)
    (commit : Commit) (links : Bool) :
    (style.render now commit links first state).1 =
      (style.render now commit links second other).1 := by
  by_cases h : style.IsDatable now commit
  · obtain ⟨fixed, hfixed, hone⟩ := render_of_isDatable h links first state
    obtain ⟨others, hothers, htwo⟩ := render_of_isDatable h links second other
    cases hfixed.symm.trans hothers
    rw [hone, htwo, resolve_congr hfirst hsecond]
  · rw [render_of_not_isDatable h, render_of_not_isDatable h]

end HeaderStyle

namespace Lookup

/-! ## Transparency -/

/-- How a lookup that remembers its successes meets a request, given the history of its answers: by
the first success of that very request, id and format, or else by asking the inner lookup once. The
states are those of the inner lookup, with what it has been asked, and the cache. -/
structure AnswersFromMemory (inner : Lookup σ) (history : List (Request × Answer))
    (request : Request) (answer : Answer) (before after : (σ × List Request) × Cache) : Prop where
  asks_nothing_iff :
    after.1.2 = before.1.2 ↔ ∃ revision, (request, .ok revision) ∈ history
  of_success : ∀ revision, firstSuccess? history request = some revision →
    answer = .ok revision ∧ after = before
  of_no_success : (∀ revision, (request, .ok revision) ∉ history) →
    (answer, after.1) =
      ((inner request before.1.1).1, (inner request before.1.1).2, before.1.2 ++ [request])
  cache_of_error : ∀ cause, answer = .error cause → after.2 = before.2
  cache_of_others : ∀ other, other ≠ request → after.2.find? other = before.2.find? other
  cache_kept : ∀ other revision, before.2.find? other = some revision →
    after.2.find? other = some revision
  holds_first_successes : ∀ other, before.2.find? other = firstSuccess? history other

theorem answersFromMemory (inner : Lookup σ) {history : List (Request × Answer)}
    {cache : Cache} (h : ∀ other, cache.find? other = firstSuccess? history other)
    (request : Request) (state : σ) (log : List Request) :
    AnswersFromMemory inner history request
      (inner.logged.cached request ((state, log), cache)).1 ((state, log), cache)
      (inner.logged.cached request ((state, log), cache)).2 := by
  rcases cached_cases inner.logged request (state, log) cache with
    ⟨revision, hfind, hstep⟩ | ⟨revision, hfind, hanswer, hstep⟩ | ⟨cause, hfind, hanswer, hstep⟩
  · -- The request has succeeded before.
    have hfirst := (h request).symm.trans hfind
    have hmem := exists_firstSuccess?_iff.mp ⟨revision, hfirst⟩
    rw [hstep]
    refine ⟨iff_of_true rfl hmem, ?_, ?_, ?_, fun _ _ => rfl, fun _ _ hother => hother, h⟩
    · intro other hother
      rw [Option.some.inj (hfirst.symm.trans hother)]
      exact ⟨rfl, rfl⟩
    · intro hnone
      obtain ⟨found, hfound⟩ := hmem
      exact absurd hfound (hnone found)
    · intro cause hcause
      cases hcause
  · -- It has not, and now it does.
    have hfirst := (h request).symm.trans hfind
    have hnone := firstSuccess?_eq_none_iff.mp hfirst
    have hinner : (inner request state).1 = .ok revision := hanswer
    rw [hstep]
    refine ⟨iff_of_false ?_ ?_, ?_, ?_, ?_, ?_, ?_, h⟩
    · simp [logged]
    · simpa using hnone
    · intro other hother
      rw [hfirst] at hother
      cases hother
    · intro _
      rw [hinner]
      rfl
    · intro cause hcause
      cases hcause
    · intro other hother
      rw [Cache.find?_remember, if_neg hother]
    · intro other found hfound
      have hother : other ≠ request := by
        rintro rfl
        rw [hfind] at hfound
        cases hfound
      rw [Cache.find?_remember, if_neg hother, hfound]
  · -- It has not, and it fails again.
    have hfirst := (h request).symm.trans hfind
    have hnone := firstSuccess?_eq_none_iff.mp hfirst
    have hinner : (inner request state).1 = .error cause := hanswer
    rw [hstep]
    refine ⟨iff_of_false ?_ ?_, ?_, ?_, fun _ _ => rfl, fun _ _ => rfl, fun _ _ hother => hother, h⟩
    · simp [logged]
    · simpa using hnone
    · intro other hother
      rw [hfirst] at hother
      cases hother
    · intro _
      rw [hinner]
      rfl

/-- After any requests the next one is answered from memory exactly if it has succeeded before, and
otherwise by the inner lookup, asked once. So in front of a lookup that answers by a function, every
answer is that of the function, and a header is the same with and without the memory. -/
theorem cached_is_transparent (inner : Lookup σ) (state : σ) (requests : List Request)
    (request : Request) :
    AnswersFromMemory inner (inner.logged.cached.history requests ((state, []), [])) request
      (inner.logged.cached request (inner.logged.cached.after requests ((state, []), []))).1
      (inner.logged.cached.after requests ((state, []), []))
      (inner.logged.cached request (inner.logged.cached.after requests ((state, []), []))).2 ∧
    inner.logged.cached.answers requests ((state, []), []) =
      inner.cached.answers requests (state, []) ∧
    ∀ answer, inner.AnswersBy state answer →
      inner.cached.AnswersBy (inner.cached.after requests (state, [])) answer ∧
      ∀ (style : HeaderStyle) (now : Calendar.Instant) (commit : Commit) (links : Bool),
        (style.render now commit links inner.cached (inner.cached.after requests (state, []))).1 =
          (style.render now commit links inner state).1 := by
  refine ⟨?_, answers_cached_logged inner requests state [] [], ?_⟩
  · have hholds := find?_after_nil inner.logged requests (state, [])
    exact answersFromMemory inner hholds request _ _
  · intro answer hanswer
    have hnew : inner.cached.AnswersBy (state, []) answer := by
      apply hanswer.cached
      intro other revision hother
      cases hother
    have hcached := hnew.after requests
    exact ⟨hcached, fun style now commit links =>
      HeaderStyle.render_congr hcached hanswer style now commit links⟩

end Lookup

theorem RevisionTable.answersBy_answer (table : RevisionTable) :
    RevisionTable.lookup.AnswersBy table table.answer := by
  intro requests
  induction requests with
  | nil => rfl
  | cons request requests ih => exact congrArg (table.answer request :: ·) ih

/-- The second request fails and the third asks for another format, so both are passed on; the
fourth is the first one again. -/
theorem Lookup.cached_is_transparent_sample :
    let known := HeaderStyle.sampleTable
    let requests : List Request :=
      [⟨.repeated 3, true⟩, ⟨.repeated 4, true⟩, ⟨.repeated 3, false⟩]
    let memory := RevisionTable.lookup.logged.cached
    RevisionTable.lookup.AnswersBy known known.answer ∧
      (memory.after requests ((known, []), [])).1.2 = requests ∧
      memory ⟨.repeated 3, true⟩ (memory.after requests ((known, []), [])) =
        (.ok ⟨.repeated 3, "Child", none⟩, memory.after requests ((known, []), [])) ∧
      RevisionTable.lookup.cached.AnswersBy
        (RevisionTable.lookup.cached.after requests (known, [])) known.answer := by
  intro known requests memory
  have hsteady := known.answersBy_answer
  obtain ⟨hmemory, -, hpure⟩ :=
    Lookup.cached_is_transparent RevisionTable.lookup known requests ⟨.repeated 3, true⟩
  obtain ⟨hanswer, hstate⟩ := hmemory.of_success ⟨.repeated 3, "Child", none⟩ (by decide +kernel)
  exact ⟨hsteady, rfl, Prod.ext hanswer hstate, (hpure _ hsteady).1⟩

end CommitHeader
