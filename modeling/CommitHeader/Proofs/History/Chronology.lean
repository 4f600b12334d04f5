import CommitHeader.Proofs.History.Children

/-!
# Times along a walk

A walk always takes a latest one of the commits that are ready. Where no commit is earlier than its
parents, a latest one of all that are left is among those: of the commits of the greatest time, one
without a descendant of that time has no child left at all. So the times along the walk never
increase, and neither do those of the children that are kept of it.
-/

namespace CommitHeader

namespace History

variable {history : History} {nodes : List HistoryNode} {node : HistoryNode}

/-- The time of a commit of the history. -/
def time? (history : History) (id : ObjectId) : Option Int :=
  (history.find? id).map HistoryNode.time

/-- No commit is earlier than one of its parents. -/
def IsChronological (history : History) : Prop :=
  ∀ child parent, history.HasParent child parent →
    ∀ late ∈ history.time? child, ∀ early ∈ history.time? parent, early ≤ late

theorem time?_eq (h : history.find? node.id = some node) : history.time? node.id = some node.time := by
  rw [time?, h, Option.map_some]

/-- It is enough to look at the commits one by one. -/
theorem isChronological_of_forall_mem (h : ∀ node ∈ history, ∀ parent ∈ node.parents,
    ∀ early ∈ history.time? parent, early ≤ node.time) : history.IsChronological := by
  intro child parent hparent late hlate early hearly
  obtain ⟨node, hfind, rfl⟩ := Option.map_eq_some_iff.mp hlate
  unfold HasParent at hparent
  rw [parentsOf_eq hfind] at hparent
  exact h node (List.mem_of_find?_eq_some hfind) parent hparent early hearly

theorem IsChronological.time_le (hchronological : history.IsChronological)
    (hholds : history.Holds nodes) {child : HistoryNode} (hchild : child ∈ nodes)
    (hnode : node ∈ nodes) (hparent : node.id ∈ child.parents) : node.time ≤ child.time :=
  hchronological child.id node.id ((hholds.hasParent_iff hchild).mpr hparent)
    child.time (time?_eq (hholds child hchild)) node.time (time?_eq (hholds node hnode))

/-! ## The latest commits -/

theorem time_le_of_latest? (h : latest? nodes = some node) :
    ∀ other ∈ nodes, other.time ≤ node.time := by
  induction nodes generalizing node with
  | nil => exact fun _ hother => absurd hother List.not_mem_nil
  | cons first rest ih =>
      unfold latest? at h
      cases hrest : latest? rest with
      | none =>
          have hnil : rest = [] := by
            by_contra hne
            obtain ⟨other, hother⟩ := exists_latest?_eq_some hne
            rw [hrest] at hother
            cases hother
          simp only [hrest, Option.some.injEq] at h
          subst hnil h
          simp
      | some last =>
          have hlast := ih hrest
          simp only [hrest] at h
          split at h
          · rename_i hlt
            cases h
            exact List.forall_mem_cons.mpr ⟨Int.le_of_lt hlt, hlast⟩
          · rename_i hle
            cases h
            refine List.forall_mem_cons.mpr ⟨Int.le_refl _, fun other hother => ?_⟩
            exact Int.le_trans (hlast other hother) (Int.not_lt.mp hle)

/-- Some commit that is ready is as late as any that is left. -/
theorem IsChronological.exists_latest_isReady (hchronological : history.IsChronological)
    (hacyclic : history.IsAcyclic) (hholds : history.Holds nodes) (h : nodes ≠ []) :
    ∃ node ∈ nodes, isReady nodes node = true ∧ ∀ other ∈ nodes, other.time ≤ node.time := by
  obtain ⟨top, htop⟩ := exists_latest?_eq_some h
  have hle := time_le_of_latest? htop
  obtain ⟨⟨node, hnode⟩, htime, hnone⟩ := (wellFounded_descends hacyclic nodes).has_min
    {latest | latest.1.time = top.time} ⟨⟨top, mem_of_latest? htop⟩, rfl⟩
  have htime : node.time = top.time := htime
  refine ⟨node, hnode, isReady_iff.mpr fun child hchild hparent => ?_, fun other hother => ?_⟩
  · -- A child is not earlier, so it is one of the latest commits too and descends from this one.
    have hearlier := hchronological.time_le hholds hchild hnode hparent
    have hlatest : child.time = top.time := by
      have hlater := hle child hchild
      omega
    have hchildOf := (hholds.hasParent_iff hchild).mpr hparent
    exact hnone ⟨child, hchild⟩ hlatest (Relation.TransGen.single hchildOf)
  · rw [htime]
    exact hle other hother

/-! ## Walks -/

/-- Each commit is a latest one of those that are ready when it is taken, which are all that come
after it. -/
def TakesLatest : List HistoryNode → Prop
  | [] => True
  | node :: left =>
      (∀ other ∈ node :: left, isReady (node :: left) other = true → other.time ≤ node.time) ∧
        TakesLatest left

theorem isReady_congr {others : List HistoryNode} (h : nodes.Perm others) (node : HistoryNode) :
    isReady nodes node = isReady others node :=
  h.all_eq

theorem takesLatest_ordered (hacyclic : history.IsAcyclic) (hholds : history.Holds nodes)
    {count : Nat} (hcount : nodes.length = count) : TakesLatest (ordered count nodes) := by
  induction count generalizing nodes with
  | zero => exact True.intro
  | succ count ih =>
      have hperm := ordered_perm hacyclic hholds hcount
      unfold ordered at hperm ⊢
      cases hlatest : latest? (nodes.filter (isReady nodes)) with
      | none => exact True.intro
      | some node =>
          rw [hlatest] at hperm
          have hnode := (ready_of_latest? hlatest).1
          have hlength : (nodes.erase node).length = count := by
            rw [List.length_erase_of_mem hnode]
            omega
          refine ⟨fun other hother hready => ?_, ih (hholds.erase node) hlength⟩
          rw [isReady_congr hperm] at hready
          have hmem := List.mem_filter.mpr ⟨hperm.subset hother, hready⟩
          exact time_le_of_latest? hlatest other hmem

/-- The times along a walk never increase. -/
theorem TakesLatest.pairwise_time_le (htakes : TakesLatest nodes)
    (hchronological : history.IsChronological) (hacyclic : history.IsAcyclic)
    (hholds : history.Holds nodes) :
    nodes.Pairwise fun earlier later => later.time ≤ earlier.time := by
  induction nodes with
  | nil => exact List.Pairwise.nil
  | cons node left ih =>
      obtain ⟨hlatest, hleft⟩ := htakes
      obtain ⟨best, hbest, hready, hle⟩ :=
        hchronological.exists_latest_isReady hacyclic hholds (List.cons_ne_nil node left)
      refine List.pairwise_cons.mpr ⟨fun later hlater => ?_, ?_⟩
      · exact Int.le_trans (hle later (List.mem_cons_of_mem _ hlater)) (hlatest best hbest hready)
      · exact ih hleft fun other hother => hholds other (List.mem_cons_of_mem _ hother)

/-! ## Children -/

/-- The ids are those of commits whose times never increase from one to the next. -/
def IsNewestFirst (history : History) (ids : List ObjectId) : Prop :=
  ∃ times : List Int, ids.map history.time? = times.map some ∧
    times.Pairwise fun earlier later => later ≤ earlier

theorem isNewestFirst_map_id (hholds : history.Holds nodes)
    (hordered : nodes.Pairwise fun earlier later => later.time ≤ earlier.time) :
    history.IsNewestFirst (nodes.map HistoryNode.id) := by
  refine ⟨nodes.map HistoryNode.time, ?_, List.pairwise_map.mpr hordered⟩
  rw [List.map_map, List.map_map]
  exact List.map_congr_left fun node hnode => time?_eq (hholds node hnode)

/-- What is kept of a walk that always takes a latest commit is listed with the newest first. -/
theorem TakesLatest.isNewestFirst_childrenIn (htakes : TakesLatest nodes)
    (hchronological : history.IsChronological) (hacyclic : history.IsAcyclic)
    (hholds : history.Holds nodes) (target : ObjectId) :
    history.IsNewestFirst (history.childrenIn target (nodes.map HistoryNode.id)) := by
  unfold childrenIn
  rw [List.filter_map]
  apply isNewestFirst_map_id
  · exact fun node hnode => hholds node (List.mem_of_mem_filter hnode)
  · exact (htakes.pairwise_time_le hchronological hacyclic hholds).filter _

theorem exists_takesLatest_of_children? (hacyclic : history.IsAcyclic) {tips ids : List ObjectId}
    {target : ObjectId} (h : history.children? tips target = some ids) :
    ∃ nodes, history.Holds nodes ∧ TakesLatest nodes ∧
      ids = history.childrenIn target (nodes.map HistoryNode.id) := by
  unfold children? at h
  split_ifs at h with hnone hread
  · cases h
    exact ⟨[], fun node hnode => absurd hnode List.not_mem_nil, True.intro, rfl⟩
  · cases h
    refine ⟨history.walk tips target, holds_walk hacyclic tips target,
      takesLatest_ordered hacyclic holds_unhidden rfl, map_id_filter_walk hacyclic tips target⟩

end History

namespace Repository

theorem children?_of_children {repository : Repository} {target : ObjectId} {ids : List ObjectId}
    (h : repository.children target = .ok ids) :
    ∃ tips, repository.history.children? tips target = some ids := by
  unfold children at h
  split at h
  · cases h
  · rename_i tips _
    split_ifs at h
    split at h
    · rename_i found hfound
      cases h
      exact ⟨tips, hfound⟩
    · cases h

/-- In a history where no commit is its own ancestor and none is earlier than one of its parents,
whatever is kept of a walk that always takes a latest one of the commits that are ready is listed
with the newest first: each is a commit, and their times never increase. The children of a commit
that are found are those kept of such a walk. They are found if nothing is missing that a branch or
the commit leads to. -/
theorem children_newest_first (repository : Repository) (target : ObjectId)
    (hacyclic : repository.history.IsAcyclic)
    (hchronological : repository.history.IsChronological) :
    (∀ nodes, repository.history.Holds nodes → History.TakesLatest nodes →
      repository.history.IsNewestFirst
        (repository.history.childrenIn target (nodes.map HistoryNode.id))) ∧
    (∀ ids, repository.children target = .ok ids → repository.history.IsNewestFirst ids ∧
      ∃ nodes, repository.history.Holds nodes ∧ History.TakesLatest nodes ∧
        ids = repository.history.childrenIn target (nodes.map HistoryNode.id)) ∧
    ((∀ ref ∈ repository.branchRefs, (repository.tip? ref.1).isSome) →
      (∀ id, repository.IsTip id ∨ id = target → repository.history.IsWhole id) →
      (repository.objects.commit? target).isSome →
        ∃ ids, repository.children target = .ok ids) := by
  refine ⟨?_, ?_, ?_⟩
  · exact fun nodes hholds htakes =>
      htakes.isNewestFirst_childrenIn hchronological hacyclic hholds target
  · intro ids hids
    obtain ⟨tips, htips⟩ := children?_of_children hids
    obtain ⟨nodes, hholds, htakes, rfl⟩ := History.exists_takesLatest_of_children? hacyclic htips
    exact ⟨htakes.isNewestFirst_childrenIn hchronological hacyclic hholds target,
      nodes, hholds, htakes, rfl⟩
  · intro hread hwhole htarget
    obtain ⟨tips, htips, hmem⟩ := exists_tips hread
    have htipsWhole : ∀ tip ∈ tips, repository.history.IsWhole tip :=
      fun tip htip => hwhole tip (Or.inl ((hmem tip).mp htip))
    have hchildren :=
      History.children?_eq_some hacyclic htipsWhole (hwhole target (Or.inr rfl))
    unfold children
    rw [htips]
    simp [Option.isNone_eq_false_iff.mpr htarget, hchildren]

open ObjectId (repeated)

/-- A commit with some parents, made at a time. -/
def recordAt (seconds : Int) (parents : List ObjectId) : CommitRecord :=
  { plainRecord parents with committer := { name := [], email := [], seconds } }

/-- Two commits on one base, the second one made before the first, and their merge, made at the time
of the later of them. -/
def dated : Repository where
  objects := [(repeated 1, .commit (recordAt 100 [])),
    (repeated 2, .commit (recordAt 200 [repeated 1])),
    (repeated 3, .commit (recordAt 300 [repeated 1])),
    (repeated 4, .commit (recordAt 300 [repeated 2, repeated 3]))]
  refs := [("refs/heads/main", .direct (repeated 4))]

theorem children_newest_first_dated :
    dated.history.IsAcyclic ∧ dated.history.IsChronological ∧
      (∀ ref ∈ dated.branchRefs, (dated.tip? ref.1).isSome) ∧
      (∀ id, dated.IsTip id ∨ id = repeated 1 → dated.history.IsWhole id) ∧
      (∃ ids, dated.children (repeated 1) = .ok ids) ∧
      dated.children (repeated 1) = .ok [repeated 3, repeated 2] ∧
      dated.history.IsNewestFirst [repeated 3, repeated 2] ∧
      [repeated 3, repeated 2].map dated.history.time? = [some 300, some 200] := by
  have hacyclic : dated.history.IsAcyclic :=
    History.isAcyclic_of_lt (fun id => (id.bytes.headD 0).toNat) (by decide +kernel)
  have hchronological : dated.history.IsChronological :=
    History.isChronological_of_forall_mem (by decide +kernel)
  have hrefs : dated.branchRefs = dated.refs := by cbv
  have htips : ∀ ref ∈ dated.branchRefs, dated.tip? ref.1 = some (some (repeated 4)) := by
    rw [hrefs]
    decide +kernel
  have hread : ∀ ref ∈ dated.branchRefs, (dated.tip? ref.1).isSome :=
    fun ref href => by rw [htips ref href]; rfl
  have hwhole : ∀ id, dated.IsTip id ∨ id = repeated 1 → dated.history.IsWhole id := by
    rintro id (⟨ref, href, htip⟩ | rfl)
    · cases htip.symm.trans (htips ref href)
      exact History.isWhole_of_isSome (by decide +kernel) (by decide +kernel)
    · exact History.isWhole_of_isSome (by decide +kernel) (by decide +kernel)
  obtain ⟨-, hsorted, hfound⟩ := children_newest_first dated (repeated 1) hacyclic hchronological
  have hids : dated.children (repeated 1) = .ok [repeated 3, repeated 2] := by cbv
  exact ⟨hacyclic, hchronological, hread, hwhole, hfound hread hwhole (by decide +kernel), hids,
    (hsorted _ hids).1, by decide +kernel⟩

end Repository

end CommitHeader
