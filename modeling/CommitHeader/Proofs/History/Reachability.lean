import CommitHeader.History
import Mathlib.Data.Finset.Card
import Mathlib.Data.List.Nodup
import Mathlib.Logic.Relation

/-!
# Reachability

What the search in rounds finds is what chains of parents lead to. As long as a round finds something
new that has parents, it uses up a commit of the history, so there are enough rounds.
-/

namespace CommitHeader

theorem nodup_eraseDups {α : Type} [DecidableEq α] (values : List α) : values.eraseDups.Nodup := by
  induction hcount : values.length using Nat.strongRecOn generalizing values with
  | ind count ih =>
      cases values with
      | nil => exact List.nodup_nil
      | cons value rest =>
          have hfewer : (rest.filter fun other => !other == value).length < count := by
            have hle := List.length_filter_le (fun other => !other == value) rest
            rw [List.length_cons] at hcount
            omega
          rw [List.eraseDups_cons]
          refine List.nodup_cons.mpr ⟨fun hmem => ?_, ih _ hfewer _ rfl⟩
          simp [List.mem_eraseDups] at hmem

namespace History

/-! ## Chains of parents -/

/-- One commit names the other one as a parent. -/
def HasParent (history : History) (child parent : ObjectId) : Prop :=
  parent ∈ history.parentsOf child

instance (history : History) (child parent : ObjectId) :
    Decidable (history.HasParent child parent) :=
  inferInstanceAs (Decidable (parent ∈ history.parentsOf child))

/-- A chain of parents, maybe an empty one, leads from one commit to the other. -/
def Reaches (history : History) : ObjectId → ObjectId → Prop :=
  Relation.ReflTransGen history.HasParent

/-- A chain of one parent or more leads to the first commit from the second one. -/
def IsAncestor (history : History) (ancestor descendant : ObjectId) : Prop :=
  Relation.TransGen history.HasParent descendant ancestor

/-- No commit is its own ancestor. -/
def IsAcyclic (history : History) : Prop :=
  ∀ id, ¬ history.IsAncestor id id

/-- All that an id reaches, itself included, is there. -/
def IsWhole (history : History) (id : ObjectId) : Prop :=
  ∀ other, history.Reaches id other → (history.find? other).isSome

variable {history : History} {id parent : ObjectId} {node : HistoryNode} {known : List ObjectId}

theorem find?_id (h : history.find? id = some node) : node.id = id := by
  have hfound := List.find?_some h
  simpa using hfound

theorem parentsOf_eq (h : history.find? id = some node) : history.parentsOf id = node.parents := by
  unfold parentsOf
  rw [h]

theorem isSome_of_hasParent (h : history.HasParent id parent) : (history.find? id).isSome := by
  unfold HasParent parentsOf at h
  cases hfind : history.find? id with
  | some node => rfl
  | none => simp [hfind] at h

theorem IsWhole.isSome (h : history.IsWhole id) : (history.find? id).isSome :=
  h id Relation.ReflTransGen.refl

theorem IsWhole.of_hasParent (h : history.IsWhole id) (hparent : history.HasParent id parent) :
    history.IsWhole parent :=
  fun other hreaches => h other (hreaches.head hparent)

/-- Parents that rank below their children leave no way back to a commit. -/
theorem isAcyclic_of_lt (rank : ObjectId → Nat)
    (h : ∀ node ∈ history, ∀ parent ∈ node.parents, rank parent < rank node.id) :
    history.IsAcyclic := by
  have hstep : ∀ child parent, history.HasParent child parent → rank parent < rank child := by
    intro child parent hparent
    obtain ⟨node, hfind⟩ := Option.isSome_iff_exists.mp (isSome_of_hasParent hparent)
    unfold HasParent at hparent
    rw [parentsOf_eq hfind] at hparent
    have hlt := h node (List.mem_of_find?_eq_some hfind) parent hparent
    rwa [find?_id hfind] at hlt
  have hchain : ∀ descendant ancestor, history.IsAncestor ancestor descendant →
      rank ancestor < rank descendant := by
    intro descendant ancestor hancestor
    induction hancestor with
    | single hparent => exact hstep _ _ hparent
    | tail _ hparent ih => exact (hstep _ _ hparent).trans ih
  exact fun id hancestor => Nat.lt_irrefl _ (hchain id id hancestor)

/-- Where no parent is missing, nothing that a commit reaches is. -/
theorem isWhole_of_isSome (h : ∀ node ∈ history, ∀ parent ∈ node.parents,
    (history.find? parent).isSome) (hid : (history.find? id).isSome) : history.IsWhole id := by
  intro other hreaches
  induction hreaches with
  | refl => exact hid
  | tail _ hparent ih =>
      obtain ⟨node, hfind⟩ := Option.isSome_iff_exists.mp ih
      unfold HasParent at hparent
      rw [parentsOf_eq hfind] at hparent
      exact h node (List.mem_of_find?_eq_some hfind) _ hparent

/-! ## Search in rounds -/

/-- The parents of each of these ids are among them. -/
def IsClosed (history : History) (known : List ObjectId) : Prop :=
  ∀ id ∈ known, ∀ parent, history.HasParent id parent → parent ∈ known

/-- What one round adds. -/
def fresh (history : History) (known : List ObjectId) : List ObjectId :=
  ((known.flatMap history.parentsOf).filter fun id => !known.contains id).eraseDups

theorem spread_succ (history : History) (rounds : Nat) (known : List ObjectId) :
    history.spread (rounds + 1) known = history.spread rounds (known ++ history.fresh known) := rfl

theorem mem_fresh_iff :
    id ∈ history.fresh known ↔ (∃ child ∈ known, history.HasParent child id) ∧ id ∉ known := by
  simp [fresh, List.mem_eraseDups, HasParent]

theorem nodup_append_fresh (h : known.Nodup) :
    (known ++ history.fresh known).Nodup := by
  refine List.nodup_append.mpr ⟨h, nodup_eraseDups _, ?_⟩
  intro id hid other hfresh hsame
  exact (mem_fresh_iff.mp hfresh).2 (hsame ▸ hid)

theorem spread_nodup (rounds : Nat) (h : known.Nodup) :
    (history.spread rounds known).Nodup := by
  induction rounds generalizing known with
  | zero => exact h
  | succ rounds ih =>
      rw [spread_succ]
      exact ih (nodup_append_fresh h)

theorem subset_spread (history : History) (rounds : Nat) (known : List ObjectId) :
    known ⊆ history.spread rounds known := by
  induction rounds generalizing known with
  | zero => exact List.Subset.refl known
  | succ rounds ih =>
      rw [spread_succ]
      exact List.Subset.trans (List.subset_append_left _ _) (ih _)

/-- No round leaves what is reached. -/
theorem exists_reaches_of_mem_spread (rounds : Nat)
    (h : id ∈ history.spread rounds known) : ∃ start ∈ known, history.Reaches start id := by
  induction rounds generalizing known with
  | zero => exact ⟨id, h, Relation.ReflTransGen.refl⟩
  | succ rounds ih =>
      rw [spread_succ] at h
      obtain ⟨start, hstart, hreaches⟩ := ih h
      rcases List.mem_append.mp hstart with hknown | hfresh
      · exact ⟨start, hknown, hreaches⟩
      · obtain ⟨⟨child, hchild, hparent⟩, -⟩ := mem_fresh_iff.mp hfresh
        exact ⟨child, hchild, hreaches.head hparent⟩

theorem IsClosed.fresh_eq_nil (h : history.IsClosed known) :
    history.fresh known = [] := by
  apply List.eq_nil_iff_forall_not_mem.mpr
  intro id hid
  obtain ⟨⟨child, hchild, hparent⟩, hnew⟩ := mem_fresh_iff.mp hid
  exact hnew (h child hchild id hparent)

/-- The commits of the history that are not yet among some ids. -/
def unread (history : History) (known : List ObjectId) : Finset ObjectId :=
  (history.map HistoryNode.id).toFinset \ known.toFinset

theorem mem_unread_iff :
    id ∈ history.unread known ↔ id ∈ history.map HistoryNode.id ∧ id ∉ known := by
  simp [unread]

theorem mem_map_id_of_isSome (h : (history.find? id).isSome) :
    id ∈ history.map HistoryNode.id := by
  obtain ⟨node, hnode⟩ := Option.isSome_iff_exists.mp h
  exact List.mem_map.mpr ⟨node, List.mem_of_find?_eq_some hnode, find?_id hnode⟩

/-- A round after which something is still missing has read another commit. -/
theorem unread_append_fresh_ssubset
    (h : ¬ history.IsClosed (known ++ history.fresh known)) :
    history.unread (known ++ history.fresh known) ⊂ history.unread known := by
  unfold IsClosed at h
  push Not at h
  obtain ⟨id, hid, parent, hparent, hmissing⟩ := h
  have hnew : id ∉ known := by
    intro hknown
    apply hmissing
    rw [List.mem_append]
    by_cases hin : parent ∈ known
    · exact Or.inl hin
    · exact Or.inr (mem_fresh_iff.mpr ⟨⟨id, hknown, hparent⟩, hin⟩)
  have hcommit := mem_map_id_of_isSome (isSome_of_hasParent hparent)
  refine Finset.ssubset_iff_of_subset ?_ |>.mpr
    ⟨id, mem_unread_iff.mpr ⟨hcommit, hnew⟩, fun hunread => (mem_unread_iff.mp hunread).2 hid⟩
  intro other hother
  obtain ⟨hmem, hnot⟩ := mem_unread_iff.mp hother
  exact mem_unread_iff.mpr ⟨hmem, fun hknown => hnot (List.mem_append_left _ hknown)⟩

theorem isClosed_spread (rounds : Nat)
    (h : history.IsClosed known ∨ (history.unread known).card < rounds) :
    history.IsClosed (history.spread rounds known) := by
  -- Each round that leaves something missing has read a commit, so the unread ones run out first.
  induction rounds generalizing known with
  | zero =>
      rcases h with hclosed | hcard
      · exact hclosed
      · omega
  | succ rounds ih =>
      rw [spread_succ]
      apply ih
      rcases h with hclosed | hcard
      · rw [hclosed.fresh_eq_nil, List.append_nil]
        exact Or.inl hclosed
      · by_cases hnext : history.IsClosed (known ++ history.fresh known)
        · exact Or.inl hnext
        · have hless := Finset.card_lt_card (unread_append_fresh_ssubset hnext)
          exact Or.inr (by omega)

/-- Ids that are not closed hold a commit of the history, so that a round is left over for the last
commits found. -/
theorem card_unread_lt (h : ¬ history.IsClosed known) :
    (history.unread known).card < history.length := by
  unfold IsClosed at h
  push Not at h
  obtain ⟨id, hid, parent, hparent, -⟩ := h
  have hcommit := mem_map_id_of_isSome (isSome_of_hasParent hparent)
  have hsubset : history.unread known ⊂ (history.map HistoryNode.id).toFinset := by
    refine Finset.ssubset_iff_of_subset Finset.sdiff_subset |>.mpr ⟨id, ?_, ?_⟩
    · exact List.mem_toFinset.mpr hcommit
    · exact fun hunread => (mem_unread_iff.mp hunread).2 hid
  calc (history.unread known).card
      < (history.map HistoryNode.id).toFinset.card := Finset.card_lt_card hsubset
    _ ≤ (history.map HistoryNode.id).length := List.toFinset_card_le _
    _ = history.length := List.length_map _

theorem IsClosed.mem_of_reaches (h : history.IsClosed known)
    {start : ObjectId} (hstart : start ∈ known) (hreaches : history.Reaches start id) :
    id ∈ known := by
  induction hreaches with
  | refl => exact hstart
  | tail _ hparent ih => exact h _ ih _ hparent

theorem reachable_nodup (history : History) (ids : List ObjectId) :
    (history.reachable ids).Nodup :=
  spread_nodup _ (nodup_eraseDups ids)

theorem isClosed_reachable (history : History) (ids : List ObjectId) :
    history.IsClosed (history.reachable ids) := by
  apply isClosed_spread
  by_cases hclosed : history.IsClosed ids.eraseDups
  · exact Or.inl hclosed
  · exact Or.inr (card_unread_lt hclosed)

/-- The search finds exactly what chains of parents lead to, whatever is missing or goes round. -/
theorem mem_reachable_iff {ids : List ObjectId} :
    id ∈ history.reachable ids ↔ ∃ start ∈ ids, history.Reaches start id := by
  constructor
  · intro h
    obtain ⟨start, hstart, hreaches⟩ := exists_reaches_of_mem_spread _ h
    exact ⟨start, List.mem_eraseDups.mp hstart, hreaches⟩
  · intro h
    obtain ⟨start, hstart, hreaches⟩ := h
    have hknown := subset_spread history history.length ids.eraseDups (List.mem_eraseDups.mpr hstart)
    exact (isClosed_reachable history ids).mem_of_reaches hknown hreaches

end History

end CommitHeader
