import CommitHeader.Proofs.History.Survey
import CommitHeader.Proofs.History.Walk
import CommitHeader.Proofs.ObjectId
import CommitHeader.Repository
import Mathlib

/-!
# Children

A walk that hides a commit still meets all its children: if the commit reached one of them, it would
be its own ancestor. What is kept of the walk is in the order of the walk, and between two commits of
a walk lie only commits of the walk, so no chain of parents leads from a later one to an earlier one.
-/

namespace CommitHeader

namespace History

variable {history : History} {tips ids : List ObjectId} {target child first : ObjectId}

/-! ## The order of a walk -/

/-- Whatever lies on a chain of parents between two of the ids is one of them. -/
def IsConvex (history : History) (ids : List ObjectId) : Prop :=
  ∀ low ∈ ids, ∀ high ∈ ids, ∀ between, history.Reaches low between →
    history.Reaches between high → between ∈ ids

theorem IsConvex.tail (hconvex : history.IsConvex (first :: ids))
    (hfirst : ∀ later ∈ ids, ¬ history.IsAncestor first later) : history.IsConvex ids := by
  intro low hlow high hhigh between hlower hupper
  have hmem := hconvex low (List.mem_cons_of_mem _ hlow) high (List.mem_cons_of_mem _ hhigh) between
    hlower hupper
  rcases List.mem_cons.mp hmem with rfl | hrest
  · rcases Relation.reflTransGen_iff_eq_or_transGen.mp hlower with rfl | hancestor
    · exact hlow
    · exact absurd hancestor (hfirst low hlow)
  · exact hrest

/-- The ids that have the target as a parent. -/
def childrenIn (history : History) (target : ObjectId) (ids : List ObjectId) : List ObjectId :=
  ids.filter fun id => (history.parentsOf id).contains target

theorem map_id_filter_walk (hacyclic : history.IsAcyclic) (tips : List ObjectId)
    (target : ObjectId) :
    ((history.walk tips target).filter fun node => node.parents.contains target).map
        HistoryNode.id =
      history.childrenIn target ((history.walk tips target).map HistoryNode.id) := by
  unfold childrenIn
  rw [List.filter_map]
  congr 1
  apply List.filter_congr
  intro node hnode
  rw [Function.comp_apply, parentsOf_eq (holds_walk hacyclic tips target node hnode)]

theorem children?_eq_some (hacyclic : history.IsAcyclic)
    (hwhole : ∀ tip ∈ tips, history.IsWhole tip) (htarget : history.IsWhole target) :
    history.children? tips target =
      some (history.childrenIn target ((history.walk tips target).map HistoryNode.id)) := by
  unfold children?
  rw [isSurveyable_of_isWhole hwhole htarget, map_id_filter_walk hacyclic]
  cases tips with
  | nil =>
      have hwalk := isWalk_walk hacyclic hwhole target
      have hnone : (history.walk [] target).map HistoryNode.id = [] := by
        apply List.eq_nil_iff_forall_not_mem.mpr
        intro id hid
        obtain ⟨⟨tip, htip, -⟩, -⟩ := (hwalk.mem_iff id).mp hid
        cases htip
      rw [hnone]
      rfl
  | cons tip rest => rfl

end History

/-! ## Children in a repository -/

namespace Repository

variable {repository : Repository}

/-- A local or remote-tracking branch leads to the commit. -/
def IsTip (repository : Repository) (tip : ObjectId) : Prop :=
  ∃ ref ∈ repository.branchRefs, repository.tip? ref.1 = some (some tip)

theorem exists_tips (hread : ∀ ref ∈ repository.branchRefs, (repository.tip? ref.1).isSome) :
    ∃ tips, repository.tips? = some tips ∧ ∀ tip, tip ∈ tips ↔ repository.IsTip tip := by
  have hsome : repository.branchRefs.mapM (fun ref => repository.tip? ref.1) =
      some (repository.branchRefs.map fun ref => (repository.tip? ref.1).getD none) := by
    rw [mapM_eq_some_iff, List.map_map]
    apply List.map_congr_left
    intro ref href
    obtain ⟨tip, htip⟩ := Option.isSome_iff_exists.mp (hread ref href)
    simp [htip]
  refine ⟨_, by rw [tips?, hsome, Option.map_some], fun tip => ?_⟩
  unfold IsTip
  rw [List.mem_filterMap]
  constructor
  · rintro ⟨_, hmem, rfl⟩
    obtain ⟨ref, href, htip⟩ := List.mem_map.mp hmem
    obtain ⟨answer, hanswer⟩ := Option.isSome_iff_exists.mp (hread ref href)
    rw [hanswer] at htip
    exact ⟨ref, href, hanswer.trans (congrArg some htip)⟩
  · intro h
    obtain ⟨ref, href, htip⟩ := h
    exact ⟨some tip, List.mem_map.mpr ⟨ref, href, by rw [htip]; rfl⟩, rfl⟩

open ObjectId (repeated)

/-- A commit with some parents and nothing else of note. -/
def plainRecord (parents : List ObjectId) : CommitRecord where
  tree := repeated 0
  parents
  author := { name := [], email := [], seconds := 0 }
  committer := { name := [], email := [], seconds := 0 }
  message := []

end Repository

end CommitHeader
