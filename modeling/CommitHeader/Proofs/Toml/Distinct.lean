import CommitHeader.Toml.Document
import Mathlib

/-!
# Keys are distinct

A document that says a key of a table twice is refused, in whatever way the table is written. So
every table that a document stands for, and every table in it, has each of its keys once.
-/

namespace CommitHeader.Toml

/-- Every table in a value has each of its keys once. -/
inductive Value.IsDistinct : Value → Prop
  | string (text : String) : IsDistinct (.string text)
  | boolean (value : Bool) : IsDistinct (.boolean value)
  | integer (value : Int) : IsDistinct (.integer value)
  | real (literal : RealLiteral) : IsDistinct (.real literal)
  | moment (text : String) : IsDistinct (.moment text)
  | array {items : List Value} (isDistinct : ∀ item ∈ items, IsDistinct item) :
      IsDistinct (.array items)
  | table {entries : Table} (nodup : (entries.map Prod.fst).Nodup)
      (isDistinct : ∀ entry ∈ entries, IsDistinct entry.2) : IsDistinct (.table entries)

/-- The same of what stands at a key while a document is read. -/
inductive Draft.IsDistinct : Draft → Prop
  | value {value : Value} (isDistinct : value.IsDistinct) : IsDistinct (.value value)
  | table {origin : Origin} {entries : Entries} (nodup : (entries.map Prod.fst).Nodup)
      (isDistinct : ∀ entry ∈ entries, IsDistinct entry.2) : IsDistinct (.table origin entries)
  | tables {earlier : List Value} {last : Entries}
      (earlier_isDistinct : ∀ value ∈ earlier, value.IsDistinct)
      (nodup : (last.map Prod.fst).Nodup) (isDistinct : ∀ entry ∈ last, IsDistinct entry.2) :
      IsDistinct (.tables earlier last)

/-- The same of a table under construction. -/
structure Entries.AreDistinct (entries : Entries) : Prop where
  nodup : (entries.map Prod.fst).Nodup
  isDistinct : ∀ entry ∈ entries, entry.2.IsDistinct

/-! ## Finished tables -/

theorem mem_of_lookup_eq_some {α : Type} {entries : List (String × α)} {key : String} {a : α}
    (h : entries.lookup key = some a) : (key, a) ∈ entries := by
  obtain ⟨before, after, rfl, -⟩ := List.lookup_eq_some_iff.mp h
  simp

theorem closeAll_eq_map (entries : Entries) :
    closeAll entries = entries.map fun entry => (entry.1, entry.2.close) := by
  induction entries with
  | nil => rfl
  | cons entry entries ih => rw [closeAll, ih, List.map_cons]

theorem map_fst_closeAll (entries : Entries) :
    (closeAll entries).map Prod.fst = entries.map Prod.fst := by
  rw [closeAll_eq_map, List.map_map]
  rfl

theorem isDistinct_closeAll {entries : Entries} (hnodup : (entries.map Prod.fst).Nodup)
    (hclose : ∀ entry ∈ entries, entry.2.close.IsDistinct) :
    (Value.table (closeAll entries)).IsDistinct := by
  apply Value.IsDistinct.table
  · rwa [map_fst_closeAll]
  · intro entry hentry
    rw [closeAll_eq_map] at hentry
    obtain ⟨draft, hdraft, rfl⟩ := List.mem_map.mp hentry
    exact hclose draft hdraft

theorem Draft.IsDistinct.close {draft : Draft} (h : draft.IsDistinct) :
    draft.close.IsDistinct := by
  induction h with
  | value h => rwa [Draft.close]
  | table hnodup _ ih =>
      rw [Draft.close]
      exact isDistinct_closeAll hnodup ih
  | tables hearlier hnodup _ ih =>
      rw [Draft.close]
      apply Value.IsDistinct.array
      rintro item hitem
      rcases List.mem_append.mp hitem with hmem | hmem
      · exact hearlier item hmem
      · obtain rfl := List.mem_singleton.mp hmem
        exact isDistinct_closeAll hnodup ih

namespace Entries

theorem AreDistinct.close {entries : Entries} (h : entries.AreDistinct) :
    (Value.table (closeAll entries)).IsDistinct :=
  isDistinct_closeAll h.nodup fun entry hentry => (h.isDistinct entry hentry).close

/-! ## Tables under construction -/

theorem areDistinct_nil : AreDistinct [] :=
  ⟨List.nodup_nil, by simp⟩

theorem AreDistinct.find? {entries : Entries} (h : entries.AreDistinct) {key : String}
    {draft : Draft} (hfind : entries.find? key = some draft) : draft.IsDistinct :=
  h.isDistinct _ (mem_of_lookup_eq_some hfind)

theorem AreDistinct.of_table {entries inner : Entries} (h : entries.AreDistinct) {key : String}
    {origin : Origin} (hfind : entries.find? key = some (.table origin inner)) :
    inner.AreDistinct := by
  cases h.find? hfind with
  | table hnodup hinner => exact ⟨hnodup, hinner⟩

theorem AreDistinct.of_tables {entries last : Entries} (h : entries.AreDistinct) {key : String}
    {earlier : List Value} (hfind : entries.find? key = some (.tables earlier last)) :
    (∀ value ∈ earlier, value.IsDistinct) ∧ last.AreDistinct := by
  cases h.find? hfind with
  | tables hearlier hnodup hlast => exact ⟨hearlier, hnodup, hlast⟩

theorem mem_put {entries : Entries} {key : String} {draft : Draft} {entry : String × Draft}
    (h : entry ∈ entries.put key draft) : entry = (key, draft) ∨ entry ∈ entries := by
  induction entries with
  | nil => simpa [put] using h
  | cons first entries ih =>
      obtain ⟨other, old⟩ := first
      rw [put] at h
      split_ifs at h with hsame
      · rcases List.mem_cons.mp h with rfl | hmem
        · exact .inl rfl
        · exact .inr (List.mem_cons_of_mem _ hmem)
      · rcases List.mem_cons.mp h with rfl | hmem
        · exact .inr List.mem_cons_self
        · exact (ih hmem).imp_right (List.mem_cons_of_mem _)

theorem nodup_put {entries : Entries} (h : (entries.map Prod.fst).Nodup) (key : String)
    (draft : Draft) : ((entries.put key draft).map Prod.fst).Nodup := by
  induction entries with
  | nil => simp [put]
  | cons first entries ih =>
      obtain ⟨other, old⟩ := first
      rw [List.map_cons, List.nodup_cons] at h
      obtain ⟨hnew, hrest⟩ := h
      rw [put]
      split_ifs with hsame
      · subst hsame
        exact List.nodup_cons.mpr ⟨hnew, hrest⟩
      · rw [List.map_cons, List.nodup_cons]
        refine ⟨?_, ih hrest⟩
        intro hmem
        obtain ⟨entry, hentry, hkey⟩ := List.mem_map.mp hmem
        rcases mem_put hentry with rfl | hold
        · exact hsame hkey.symm
        · exact hnew (hkey ▸ List.mem_map_of_mem hold)

theorem AreDistinct.put {entries : Entries} (h : entries.AreDistinct) (key : String)
    {draft : Draft} (hdraft : draft.IsDistinct) : (entries.put key draft).AreDistinct := by
  refine ⟨nodup_put h.nodup key draft, ?_⟩
  intro entry hentry
  rcases mem_put hentry with rfl | hold
  · exact hdraft
  · exact h.isDistinct entry hold

theorem AreDistinct.table {entries : Entries} (h : entries.AreDistinct) (origin : Origin) :
    (Draft.table origin entries).IsDistinct :=
  .table h.nodup h.isDistinct

theorem AreDistinct.tables {last : Entries} (h : last.AreDistinct) {earlier : List Value}
    (hearlier : ∀ value ∈ earlier, value.IsDistinct) :
    (Draft.tables earlier last).IsDistinct :=
  .tables hearlier h.nodup h.isDistinct

/-- A change that keeps the keys of one table distinct keeps those of all tables distinct. -/
theorem AreDistinct.within? {change : Entries → Option Entries}
    (hchange : ∀ {before after : Entries}, before.AreDistinct → change before = some after →
      after.AreDistinct) {path : List String} {entries changed : Entries}
    (h : entries.AreDistinct) (hwithin : within? change path entries = some changed) :
    changed.AreDistinct := by
  induction path generalizing entries changed with
  | nil => exact hchange h hwithin
  | cons key path ih =>
      rw [Entries.within?] at hwithin
      split at hwithin
      · obtain ⟨inner, hinner, rfl⟩ := Option.map_eq_some_iff.mp hwithin
        exact h.put key ((ih areDistinct_nil hinner).table _)
      · cases hwithin
      · rename_i origin inner hfind
        obtain ⟨next, hnext, rfl⟩ := Option.map_eq_some_iff.mp hwithin
        exact h.put key ((ih (h.of_table hfind) hnext).table _)
      · rename_i earlier last hfind
        obtain ⟨next, hnext, rfl⟩ := Option.map_eq_some_iff.mp hwithin
        obtain ⟨hearlier, hlast⟩ := h.of_tables hfind
        exact h.put key ((ih hlast hnext).tables hearlier)

theorem AreDistinct.openTable? {entries opened : Entries} {key : String}
    (h : entries.AreDistinct) (hopen : entries.openTable? key = some opened) :
    opened.AreDistinct := by
  unfold Entries.openTable? at hopen
  split at hopen
  · cases hopen
    exact h.put key (areDistinct_nil.table _)
  · rename_i inner hfind
    cases hopen
    exact h.put key ((h.of_table hfind).table _)
  · cases hopen

theorem AreDistinct.pushTable? {entries pushed : Entries} {key : String}
    (h : entries.AreDistinct) (hpush : entries.pushTable? key = some pushed) :
    pushed.AreDistinct := by
  unfold Entries.pushTable? at hpush
  split at hpush
  · cases hpush
    exact h.put key (areDistinct_nil.tables (by simp))
  · rename_i earlier last hfind
    cases hpush
    obtain ⟨hearlier, hlast⟩ := h.of_tables hfind
    apply h.put key
    apply areDistinct_nil.tables
    intro value hvalue
    rcases List.mem_append.mp hvalue with hmem | hmem
    · exact hearlier value hmem
    · obtain rfl := List.mem_singleton.mp hmem
      exact hlast.close
  · cases hpush

theorem AreDistinct.assign? {value : Value} (hvalue : value.IsDistinct) {path : List String}
    {entries assigned : Entries} (h : entries.AreDistinct)
    (hassign : Entries.assign? value path entries = some assigned) : assigned.AreDistinct := by
  induction path generalizing entries assigned with
  | nil => cases hassign
  | cons key path ih =>
      cases path with
      | nil =>
          unfold Entries.assign? at hassign
          split at hassign
          · cases hassign
            exact h.put key (.value hvalue)
          · cases hassign
      | cons next rest =>
          unfold Entries.assign? at hassign
          split at hassign
          · obtain ⟨inner, hinner, rfl⟩ := Option.map_eq_some_iff.mp hassign
            exact h.put key ((ih areDistinct_nil hinner).table _)
          · rename_i inner hfind
            obtain ⟨after, hafter, rfl⟩ := Option.map_eq_some_iff.mp hassign
            exact h.put key ((ih (h.of_table hfind) hafter).table _)
          · rename_i inner hfind
            split_ifs at hassign
            obtain ⟨after, hafter, rfl⟩ := Option.map_eq_some_iff.mp hassign
            exact h.put key ((ih (h.of_table hfind) hafter).table _)
          · rename_i earlier last hfind
            split_ifs at hassign
            obtain ⟨after, hafter, rfl⟩ := Option.map_eq_some_iff.mp hassign
            obtain ⟨hearlier, hlast⟩ := h.of_tables hfind
            exact h.put key ((ih hlast hafter).tables hearlier)
          · cases hassign

end Entries

/-- What every step of a fold keeps, the whole fold keeps. -/
theorem of_foldlM_eq_some {α β : Type} {step : β → α → Option β} {I : β → Prop} {items : List α}
    (hstep : ∀ before, ∀ item ∈ items, ∀ after, I before → step before item = some after →
      I after) {first last : β} (hfirst : I first)
    (h : items.foldlM step first = some last) : I last := by
  induction items generalizing first with
  | nil =>
      cases h
      exact hfirst
  | cons item items ih =>
      rw [List.foldlM_cons] at h
      obtain ⟨next, hnext, hrest⟩ := Option.bind_eq_some_iff.mp h
      apply ih _ (hstep first item List.mem_cons_self next hfirst hnext) hrest
      exact fun before item hitem => hstep before item (List.mem_cons_of_mem _ hitem)

theorem isDistinct_of_ofAssignments? {assignments : List (List String × Value)} {table : Table}
    (hvalues : ∀ assignment ∈ assignments, assignment.2.IsDistinct)
    (h : Entries.ofAssignments? assignments = some table) : (Value.table table).IsDistinct := by
  obtain ⟨entries, hentries, rfl⟩ := Option.map_eq_some_iff.mp h
  refine (of_foldlM_eq_some (I := Entries.AreDistinct) ?_ Entries.areDistinct_nil hentries).close
  rintro before ⟨path, value⟩ hmem after hbefore hafter
  exact hbefore.assign? (hvalues _ hmem) hafter

/-! ## Values -/

/-- What holds of every item that is read holds of all items of a collection. -/
theorem forall_of_items? {α : Type} {item : Reader α} {closing : Char} {P : α → Prop}
    (hitem : ∀ {cs rest : List Char} {a : α}, item cs = some (a, rest) → P a)
    {cs rest : List Char} {items : List α} (h : items? item closing cs = some (items, rest)) :
    ∀ a ∈ items, P a := by
  fun_induction items? item closing cs generalizing items rest with
  | case1 | case2 | case4 | case5 | case6 | case9 => cases h
  | case3 =>
      cases h
      simp
  | case7 =>
      cases h
      rename_i hfirst _ _
      simpa using hitem hfirst
  | case8 =>
      rename_i hfirst _ _ _ _ _ ih
      obtain ⟨⟨others, last⟩, hothers, heq⟩ := Option.map_eq_some_iff.mp h
      cases heq
      exact List.forall_mem_cons.mpr ⟨hitem hfirst, ih hothers⟩

theorem of_assignment? {gap? : List Char → Option (List Char)} {value : Reader Value}
    {P : Value → Prop} (hvalue : ∀ {cs rest : List Char} {v : Value},
      value cs = some (v, rest) → P v)
    {cs rest : List Char} {assignment : List String × Value}
    (h : assignment? gap? value cs = some (assignment, rest)) : P assignment.2 := by
  unfold assignment? at h
  obtain ⟨⟨path, after⟩, -, h⟩ := Option.bind_eq_some_iff.mp h
  obtain ⟨start, -, h⟩ := Option.bind_eq_some_iff.mp h
  split at h
  · obtain ⟨content, -, h⟩ := Option.bind_eq_some_iff.mp h
    obtain ⟨⟨v, last⟩, hv, h⟩ := Option.bind_eq_some_iff.mp h
    cases h
    exact hvalue hv
  · cases h

theorem isDistinct_of_scalar? {cs rest : List Char} {value : Value}
    (h : scalar? cs = some (value, rest)) : value.IsDistinct := by
  obtain ⟨scalar, hscalar, heq⟩ := Option.map_eq_some_iff.mp h
  cases heq
  unfold scalarOf? at hscalar
  split_ifs at hscalar
  · cases hscalar
    exact .boolean true
  · cases hscalar
    exact .boolean false
  · cases hscalar
    exact .moment _
  · split at hscalar
    · cases hscalar
      exact .integer _
    · obtain ⟨literal, -, rfl⟩ := Option.map_eq_some_iff.mp hscalar
      exact .real literal

theorem isDistinct_of_stringOrScalar? {cs rest : List Char} {value : Value}
    (h : (if (StringForm.opening? cs).isSome then
        (StringForm.read? cs).map fun (text, last) => (.string text, last)
      else scalar? cs) = some (value, rest)) : value.IsDistinct := by
  split_ifs at h
  · obtain ⟨⟨text, last⟩, -, heq⟩ := Option.map_eq_some_iff.mp h
    cases heq
    exact .string text
  · exact isDistinct_of_scalar? h

/-- However deep tables and arrays nest, none of them has a key twice. -/
theorem isDistinct_of_value? {depth : Nat} {cs rest : List Char} {value : Value}
    (h : value? depth cs = some (value, rest)) : value.IsDistinct := by
  -- The items of a collection nest one level less deep; within a level the text alone gets shorter.
  induction depth generalizing cs rest value with
  | zero =>
      unfold value? at h
      split at h
      · cases h
      · cases h
      · rename_i hdepth
        cases hdepth
      · rename_i hdepth
        cases hdepth
      · exact isDistinct_of_stringOrScalar? h
  | succ depth ih =>
      unfold value? at h
      split at h
      · rename_i hdepth
        cases hdepth
      · rename_i hdepth
        cases hdepth
      · rename_i hdepth
        cases hdepth
        obtain ⟨⟨items, last⟩, hitems, heq⟩ := Option.map_eq_some_iff.mp h
        cases heq
        exact .array (forall_of_items? ih hitems)
      · rename_i hdepth
        cases hdepth
        split at h
        · cases h
        · rename_i hitems
          obtain ⟨table, htable, heq⟩ := Option.map_eq_some_iff.mp h
          cases heq
          refine isDistinct_of_ofAssignments? ?_ htable
          exact forall_of_items? (of_assignment? ih) hitems
      · exact isDistinct_of_stringOrScalar? h

/-! ## Documents -/

/-- The value of an entry has distinct keys; a header has no value. -/
def Statement.IsDistinct : Statement → Prop
  | .entry _ value => value.IsDistinct
  | .header _ | .element _ => True

namespace Statement

theorem isDistinct_of_content? {cs rest : List Char} {statement : Statement}
    (h : content? cs = some (statement, rest)) : statement.IsDistinct := by
  unfold content? at h
  split at h
  · obtain ⟨_, -, heq⟩ := Option.map_eq_some_iff.mp h
    cases heq
    trivial
  · obtain ⟨_, -, heq⟩ := Option.map_eq_some_iff.mp h
    cases heq
    trivial
  · obtain ⟨⟨⟨path, value⟩, last⟩, hvalue, heq⟩ := Option.map_eq_some_iff.mp h
    cases heq
    exact of_assignment? isDistinct_of_value? hvalue

theorem isDistinct_of_read? {cs rest : List Char} {statement : Statement}
    (h : read? cs = some (statement, rest)) : statement.IsDistinct := by
  unfold read? at h
  split at h
  · cases h
  · rename_i hcontent
    obtain ⟨_, -, heq⟩ := Option.map_eq_some_iff.mp h
    cases heq
    exact isDistinct_of_content? hcontent

theorem isDistinct_of_all? {cs : List Char} {statements : List Statement}
    (h : all? cs = some statements) : ∀ statement ∈ statements, statement.IsDistinct := by
  fun_induction all? cs generalizing statements with
  | case1 | case3 | case5 => cases h
  | case2 =>
      cases h
      simp
  | case4 =>
      rename_i hread _ ih
      obtain ⟨others, hothers, rfl⟩ := Option.map_eq_some_iff.mp h
      exact List.forall_mem_cons.mpr ⟨isDistinct_of_read? hread, ih hothers⟩

end Statement

theorem areDistinct_of_add? {outline next : Outline} {statement : Statement}
    (hstatement : statement.IsDistinct) (h : outline.root.AreDistinct)
    (hadd : outline.add? statement = some next) : next.root.AreDistinct := by
  cases statement with
  | entry path value =>
      obtain ⟨root, hroot, rfl⟩ := Option.map_eq_some_iff.mp hadd
      exact h.within? (Entries.AreDistinct.assign? hstatement) hroot
  | header path =>
      obtain ⟨⟨start, key⟩, -, hadd⟩ := Option.bind_eq_some_iff.mp hadd
      obtain ⟨root, hroot, hnext⟩ := Option.bind_eq_some_iff.mp hadd
      cases hnext
      exact h.within? Entries.AreDistinct.openTable? hroot
  | element path =>
      obtain ⟨⟨start, key⟩, -, hadd⟩ := Option.bind_eq_some_iff.mp hadd
      obtain ⟨root, hroot, hnext⟩ := Option.bind_eq_some_iff.mp hadd
      cases hnext
      exact h.within? Entries.AreDistinct.pushTable? hroot

/-- The table that a document stands for has each of its keys once, and so has every table in
it. -/
theorem isDistinct_of_read? {text : String} {table : Table} (h : read? text = some table) :
    (Value.table table).IsDistinct := by
  obtain ⟨statements, hstatements, htable⟩ := Option.bind_eq_some_iff.mp h
  obtain ⟨outline, houtline, rfl⟩ := Option.map_eq_some_iff.mp htable
  have hdistinct := Statement.isDistinct_of_all? hstatements
  -- The tables made so far are the invariant of the fold over the statements.
  refine (of_foldlM_eq_some (I := fun outline : Outline => outline.root.AreDistinct) ?_
    Entries.areDistinct_nil houtline).close
  intro before statement hmem after hbefore hafter
  exact areDistinct_of_add? (hdistinct statement hmem) hbefore hafter

example : (read? "x.y = 1\n[x]\n").isNone ∧ (read? "x.y = 1\nx.z = 2\n").isSome := by
  decide +kernel

end CommitHeader.Toml
