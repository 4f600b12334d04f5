import CommitHeader.History.Survey
import CommitHeader.Proofs.History.Reachability

/-!
# Walks that can be read

Where all that the tips and the hidden commit reach is there, a walk never asks for what cannot be
read, whatever it takes for the past and whenever it stops.
-/

namespace CommitHeader

theorem mapM_eq_some_iff {α β : Type} {f : α → Option β} {values : List α} {results : List β} :
    values.mapM f = some results ↔ values.map f = results.map some := by
  induction values generalizing results with
  | nil => cases results <;> simp
  | cons value rest ih =>
      rw [List.mapM_cons]
      constructor
      · intro h
        obtain ⟨result, hvalue, h⟩ := Option.bind_eq_some_iff.mp h
        obtain ⟨others, hrest, h⟩ := Option.bind_eq_some_iff.mp h
        cases h
        simp only [List.map_cons, hvalue, ih.mp hrest]
      · intro h
        cases results with
        | nil => simp at h
        | cons result others =>
            rw [List.map_cons, List.map_cons] at h
            obtain ⟨hvalue, hrest⟩ := List.cons.inj h
            rw [hvalue, ih.mpr hrest]
            rfl

/-- A fold whose steps keep an invariant, and have a result where it holds, has one that keeps it. -/
theorem exists_foldlM_eq_some {State Item : Type} {step : State → Item → Option State}
    {Invariant : State → Prop} {items : List Item}
    (hstep : ∀ state, ∀ item ∈ items, Invariant state →
      ∃ next, step state item = some next ∧ Invariant next)
    {state : State} (h : Invariant state) :
    ∃ last, items.foldlM step state = some last ∧ Invariant last := by
  induction items generalizing state with
  | nil => exact ⟨state, rfl, h⟩
  | cons item rest ih =>
      obtain ⟨next, hnext, hinvariant⟩ := hstep state item List.mem_cons_self h
      rw [List.foldlM_cons, hnext]
      exact ih (fun state item hitem => hstep state item (List.mem_cons_of_mem _ hitem)) hinvariant

namespace History

variable {history : History} {id : ObjectId} {node : HistoryNode}

namespace Survey

variable {survey : Survey}

/-- Every commit of the queue is one of the history, and all that it reaches is there. -/
def IsWhole (history : History) (survey : Survey) : Prop :=
  ∀ node ∈ survey.queue, history.find? node.id = some node ∧ history.IsWhole node.id

theorem mem_enqueue_iff {queue : List HistoryNode} {other : HistoryNode} :
    other ∈ enqueue node queue ↔ other = node ∨ other ∈ queue := by
  induction queue with
  | nil => simp [enqueue]
  | cons first rest ih =>
      unfold enqueue
      split
      · simp
      · simp only [List.mem_cons, ih]
        exact or_left_comm

theorem IsWhole.enqueue (h : survey.IsWhole history) (hfind : history.find? id = some node)
    (hwhole : history.IsWhole id) :
    ∀ other ∈ enqueue node survey.queue,
      history.find? other.id = some other ∧ history.IsWhole other.id := by
  intro other hother
  rcases mem_enqueue_iff.mp hother with rfl | hqueue
  · rw [find?_id hfind]
    exact ⟨hfind, hwhole⟩
  · exact h other hqueue

theorem readParent?_isWhole (h : survey.IsWhole history) (hwhole : history.IsWhole id) :
    ∃ next, readParent? history survey id = some next ∧ next.IsWhole history := by
  obtain ⟨node, hfind⟩ := Option.isSome_iff_exists.mp hwhole.isSome
  refine ⟨_, by rw [readParent?, hfind, Option.map_some], ?_⟩
  dsimp only
  split
  · exact h
  · exact h.enqueue hfind hwhole

theorem readPastParent?_isWhole (h : survey.IsWhole history) (hwhole : history.IsWhole id) :
    ∃ next, readPastParent? history survey id = some next ∧ next.IsWhole history := by
  obtain ⟨node, hfind⟩ := Option.isSome_iff_exists.mp hwhole.isSome
  refine ⟨_, by rw [readPastParent?, hfind, Option.map_some], ?_⟩
  exact h.enqueue hfind hwhole

theorem readParents?_isWhole (h : survey.IsWhole history) (hfind : history.find? node.id = some node)
    (hwhole : history.IsWhole node.id) :
    ∃ next, readParents? history node survey = some next ∧ next.IsWhole history := by
  unfold readParents?
  split
  · exact ⟨survey, rfl, h⟩
  · refine exists_foldlM_eq_some ?_ (fun other hother => h other hother)
    intro state parent hmem hstate
    have hparent : history.HasParent node.id parent := by
      unfold HasParent
      rw [parentsOf_eq hfind]
      exact hmem
    split
    · exact readPastParent?_isWhole hstate (hwhole.of_hasParent hparent)
    · exact readParent?_isWhole hstate (hwhole.of_hasParent hparent)

theorem take?_isWhole (h : survey.IsWhole history) (hfind : history.find? node.id = some node)
    (hwhole : history.IsWhole node.id) :
    ∃ next, take? history node survey = some next ∧ next.IsWhole history := by
  obtain ⟨next, hnext, hinvariant⟩ := readParents?_isWhole h hfind hwhole
  refine ⟨_, by rw [take?, hnext, Option.map_some], ?_⟩
  split
  · exact fun other hother => hinvariant other hother
  · exact fun other hother => hinvariant other hother

theorem succeeds_of_isWhole (fuel : Nat) (h : survey.IsWhole history) :
    succeeds history fuel survey = true := by
  induction fuel generalizing survey with
  | zero => rfl
  | succ fuel ih =>
      cases hqueue : survey.queue with
      | nil => simp [succeeds, hqueue]
      | cons node queue =>
          obtain ⟨hfind, hwhole⟩ := h node (hqueue ▸ List.mem_cons_self)
          have hrest : IsWhole history { survey with queue } :=
            fun other hother => h other (hqueue ▸ List.mem_cons_of_mem _ hother)
          obtain ⟨next, hnext, hinvariant⟩ := take?_isWhole hrest hfind hwhole
          simp [succeeds, hqueue, hnext, ih hinvariant]

end Survey

theorem isSurveyable_of_isWhole {tips : List ObjectId} {hidden : ObjectId}
    (htips : ∀ tip ∈ tips, history.IsWhole tip) (hhidden : history.IsWhole hidden) :
    history.isSurveyable tips hidden = true := by
  obtain ⟨target, htarget⟩ := Option.isSome_iff_exists.mp hhidden.isSome
  have hnodes : tips.mapM history.find? = some (tips.filterMap history.find?) := by
    rw [mapM_eq_some_iff]
    induction tips with
    | nil => rfl
    | cons tip rest ih =>
        obtain ⟨node, hnode⟩ := Option.isSome_iff_exists.mp (htips tip List.mem_cons_self).isSome
        rw [List.map_cons, List.filterMap_cons_some hnode, List.map_cons, hnode,
          ih fun other hother => htips other (List.mem_cons_of_mem _ hother)]
  unfold isSurveyable
  rw [hnodes, htarget]
  apply Survey.succeeds_of_isWhole
  intro node hnode
  rw [Survey.start, List.mem_eraseDups, List.mem_cons, List.mem_reverse, List.mem_filterMap] at hnode
  rcases hnode with rfl | ⟨tip, htip, hfind⟩
  · rw [find?_id htarget]
    exact ⟨htarget, hhidden⟩
  · rw [find?_id hfind]
    exact ⟨hfind, htips tip htip⟩

end History

end CommitHeader
