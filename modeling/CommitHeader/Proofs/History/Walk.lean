import CommitHeader.History.Children
import CommitHeader.Proofs.History.Reachability
import Mathlib.Data.Fintype.Card
import Mathlib.Data.Set.Finite.List

/-!
# Walks

A walk lists what the tips reach and the hidden commit does not reach, each once and after its
children. Where no commit is its own ancestor, some commit that is left is ready to be listed.
-/

namespace CommitHeader

namespace History

variable {history : History} {nodes : List HistoryNode} {node : HistoryNode} {ids : List ObjectId}

/-! ## Commits that are ready -/

/-- The commits are those that the history has for their ids. -/
def Holds (history : History) (nodes : List HistoryNode) : Prop :=
  ∀ node ∈ nodes, history.find? node.id = some node

theorem Holds.erase (h : history.Holds nodes) (node : HistoryNode) :
    history.Holds (nodes.erase node) :=
  fun other hother => h other (List.mem_of_mem_erase hother)

theorem Holds.hasParent_iff (h : history.Holds nodes) (hnode : node ∈ nodes) {parent : ObjectId} :
    history.HasParent node.id parent ↔ parent ∈ node.parents := by
  unfold HasParent
  rw [parentsOf_eq (h node hnode)]

theorem isReady_iff : isReady nodes node = true ↔ ∀ other ∈ nodes, node.id ∉ other.parents := by
  simp [isReady]

/-- One of some commits has the other one as an ancestor. -/
def Descends (history : History) (nodes : List HistoryNode)
    (descendant ancestor : { node // node ∈ nodes }) : Prop :=
  history.IsAncestor ancestor.1.id descendant.1.id

theorem wellFounded_descends (hacyclic : history.IsAcyclic) (nodes : List HistoryNode) :
    WellFounded (history.Descends nodes) := by
  have hfinite : Finite { node // node ∈ nodes } := (List.finite_toSet nodes).to_subtype
  have htrans : IsTrans _ (history.Descends nodes) :=
    ⟨fun _ _ _ hab hbc => Relation.TransGen.trans hab hbc⟩
  have hirrefl : Std.Irrefl (history.Descends nodes) := ⟨fun node => hacyclic node.1.id⟩
  exact Finite.wellFounded_of_trans_of_irrefl _

/-- Among finitely many commits there is one without a descendant. -/
theorem exists_isReady (hacyclic : history.IsAcyclic) (hholds : history.Holds nodes)
    (h : nodes ≠ []) : ∃ node ∈ nodes, isReady nodes node = true := by
  obtain ⟨first, hfirst⟩ := List.exists_mem_of_ne_nil nodes h
  obtain ⟨⟨node, hnode⟩, -, hnone⟩ := (wellFounded_descends hacyclic nodes).has_min
    Set.univ ⟨⟨first, hfirst⟩, trivial⟩
  refine ⟨node, hnode, isReady_iff.mpr ?_⟩
  intro other hother hparent
  have hchild := (hholds.hasParent_iff hother).mpr hparent
  exact hnone ⟨other, hother⟩ trivial (Relation.TransGen.single hchild)

theorem mem_of_latest? (h : latest? nodes = some node) : node ∈ nodes := by
  induction nodes generalizing node with
  | nil => simp [latest?] at h
  | cons first rest ih =>
      unfold latest? at h
      cases hrest : latest? rest with
      | none =>
          simp only [hrest, Option.some.injEq] at h
          exact h ▸ List.mem_cons_self
      | some other =>
          simp only [hrest] at h
          split at h
          · cases h
            exact List.mem_cons_of_mem _ (ih hrest)
          · cases h
            exact List.mem_cons_self

theorem exists_latest?_eq_some (h : nodes ≠ []) : ∃ node, latest? nodes = some node := by
  cases nodes with
  | nil => exact absurd rfl h
  | cons first rest =>
      unfold latest?
      cases latest? rest with
      | none => exact ⟨first, rfl⟩
      | some other =>
          dsimp only
          split
          · exact ⟨other, rfl⟩
          · exact ⟨first, rfl⟩

/-! ## The order -/

/-- What is taken first is ready. -/
theorem ready_of_latest? (h : latest? (nodes.filter (isReady nodes)) = some node) :
    node ∈ nodes ∧ ∀ other ∈ nodes, node.id ∉ other.parents := by
  obtain ⟨hnode, hready⟩ := List.mem_filter.mp (mem_of_latest? h)
  exact ⟨hnode, isReady_iff.mp hready⟩

theorem ordered_subset (count : Nat) (nodes : List HistoryNode) : ordered count nodes ⊆ nodes := by
  induction count generalizing nodes with
  | zero => exact List.nil_subset nodes
  | succ count ih =>
      unfold ordered
      cases hlatest : latest? (nodes.filter (isReady nodes)) with
      | none => exact List.nil_subset nodes
      | some node =>
          refine List.cons_subset.mpr ⟨(ready_of_latest? hlatest).1, ?_⟩
          exact List.Subset.trans (ih _) List.erase_subset

theorem ordered_pairwise (count : Nat) (nodes : List HistoryNode) :
    (ordered count nodes).Pairwise fun earlier later => earlier.id ∉ later.parents := by
  induction count generalizing nodes with
  | zero => exact List.Pairwise.nil
  | succ count ih =>
      unfold ordered
      cases hlatest : latest? (nodes.filter (isReady nodes)) with
      | none => exact List.Pairwise.nil
      | some node =>
          refine List.pairwise_cons.mpr ⟨fun later hlater => ?_, ih _⟩
          have hmem := List.erase_subset (ordered_subset _ _ hlater)
          exact (ready_of_latest? hlatest).2 later hmem

/-- No commit is lost or repeated by the order. -/
theorem ordered_perm (hacyclic : history.IsAcyclic) (hholds : history.Holds nodes) {count : Nat}
    (hcount : nodes.length = count) : (ordered count nodes).Perm nodes := by
  induction count generalizing nodes with
  | zero =>
      rw [List.eq_nil_of_length_eq_zero hcount]
      exact List.Perm.nil
  | succ count ih =>
      have hne : nodes ≠ [] := List.ne_nil_of_length_eq_add_one hcount
      obtain ⟨ready, hready, htrue⟩ := exists_isReady hacyclic hholds hne
      -- A ready commit exists, so the order does not stop before its count runs out.
      have hfilter : nodes.filter (isReady nodes) ≠ [] :=
        List.ne_nil_of_mem (List.mem_filter.mpr ⟨hready, htrue⟩)
      obtain ⟨node, hlatest⟩ := exists_latest?_eq_some hfilter
      have hnode := (ready_of_latest? hlatest).1
      have hlength : (nodes.erase node).length = count := by
        rw [List.length_erase_of_mem hnode]
        omega
      unfold ordered
      rw [hlatest]
      exact ((ih (hholds.erase node) hlength).cons node).trans (List.perm_cons_erase hnode).symm

/-! ## What is listed -/

/-- The ids list what the tips reach and the hidden commit does not reach, each once and none before
one of its children. -/
structure IsWalk (history : History) (tips : List ObjectId) (hidden : ObjectId)
    (ids : List ObjectId) : Prop where
  nodup : ids.Nodup
  mem_iff : ∀ id, id ∈ ids ↔
    (∃ tip ∈ tips, history.Reaches tip id) ∧ ¬ history.Reaches hidden id
  children_first : ids.Pairwise fun earlier later => ¬ history.HasParent later earlier

/-- The commits of the history that a walk has to list, in no particular order. -/
def unhidden (history : History) (tips : List ObjectId) (hidden : ObjectId) : List HistoryNode :=
  ((history.reachable tips).filter fun id =>
    !(history.reachable [hidden]).contains id).filterMap history.find?

variable {tips : List ObjectId} {hidden : ObjectId}

theorem mem_unhidden_iff : node ∈ history.unhidden tips hidden ↔
    history.find? node.id = some node ∧ (∃ tip ∈ tips, history.Reaches tip node.id) ∧
      ¬ history.Reaches hidden node.id := by
  have hmem : ∀ id, id ∈ (history.reachable tips).filter
      (fun id => !(history.reachable [hidden]).contains id) ↔
      (∃ tip ∈ tips, history.Reaches tip id) ∧ ¬ history.Reaches hidden id := by
    intro id
    simp [mem_reachable_iff]
  unfold unhidden
  rw [List.mem_filterMap]
  constructor
  · intro h
    obtain ⟨id, hid, hfind⟩ := h
    rw [find?_id hfind]
    exact ⟨hfind, (hmem id).mp hid⟩
  · intro h
    obtain ⟨hfind, hlisted⟩ := h
    exact ⟨node.id, (hmem node.id).mpr hlisted, hfind⟩

theorem holds_unhidden : history.Holds (history.unhidden tips hidden) :=
  fun _ hnode => (mem_unhidden_iff.mp hnode).1

theorem map_id_filterMap_sublist (history : History) (ids : List ObjectId) :
    ((ids.filterMap history.find?).map HistoryNode.id).Sublist ids := by
  induction ids with
  | nil => exact List.Sublist.slnil
  | cons id rest ih =>
      cases hfind : history.find? id with
      | none =>
          rw [List.filterMap_cons_none hfind]
          exact ih.cons id
      | some node =>
          rw [List.filterMap_cons_some hfind, List.map_cons, find?_id hfind]
          exact ih.cons_cons id

theorem walk_perm (hacyclic : history.IsAcyclic) (tips : List ObjectId) (hidden : ObjectId) :
    (history.walk tips hidden).Perm (history.unhidden tips hidden) :=
  ordered_perm hacyclic holds_unhidden rfl

theorem holds_walk (hacyclic : history.IsAcyclic) (tips : List ObjectId) (hidden : ObjectId) :
    history.Holds (history.walk tips hidden) :=
  fun node hnode => holds_unhidden node ((walk_perm hacyclic tips hidden).subset hnode)

theorem isWalk_walk (hacyclic : history.IsAcyclic) (hwhole : ∀ tip ∈ tips, history.IsWhole tip)
    (hidden : ObjectId) :
    history.IsWalk tips hidden ((history.walk tips hidden).map HistoryNode.id) where
  nodup := by
    rw [((walk_perm hacyclic tips hidden).map _).nodup_iff]
    exact (map_id_filterMap_sublist _ _).nodup ((reachable_nodup history tips).filter _)
  mem_iff := by
    intro id
    rw [((walk_perm hacyclic tips hidden).map _).mem_iff, List.mem_map]
    constructor
    · rintro ⟨node, hnode, rfl⟩
      exact (mem_unhidden_iff.mp hnode).2
    · intro h
      obtain ⟨⟨tip, htip, hreaches⟩, hvisible⟩ := h
      obtain ⟨node, hfind⟩ := Option.isSome_iff_exists.mp (hwhole tip htip id hreaches)
      have hnode := find?_id hfind
      refine ⟨node, mem_unhidden_iff.mpr ?_, hnode⟩
      rw [hnode]
      exact ⟨hfind, ⟨tip, htip, hreaches⟩, hvisible⟩
  children_first := by
    rw [List.pairwise_map]
    apply (ordered_pairwise _ _).imp_of_mem
    intro earlier later _ hlater hnot hparent
    exact hnot (((holds_walk hacyclic tips hidden).hasParent_iff hlater).mp hparent)

end History

end CommitHeader
