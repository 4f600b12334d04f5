import CommitHeader.Proofs.Toml.Distinct
import CommitHeader.Settings.Table
import Mathlib

/-!
# What a table of settings says

A table of settings is told here by its entries, whatever their order: every setting has what its
key means if there is such an entry, and else the default. The labels are seven settings more,
in a table of their own or in an array.
-/

namespace CommitHeader

namespace Toml

theorem Table.find?_eq_none_iff {table : Table} {key : String} :
    table.find? key = none ↔ ∀ value, (key, value) ∉ table := by
  rw [Table.find?, List.lookup_eq_none_iff]
  constructor
  · intro h value hmem
    simpa using h _ hmem
  · rintro h ⟨other, value⟩ hmem
    rw [bne_iff_ne]
    rintro rfl
    exact h value hmem

theorem Value.string?_eq_some_iff {value : Value} {text : String} :
    value.string? = some text ↔ value = .string text := by
  cases value <;> simp [Value.string?]

theorem Value.boolean?_eq_some_iff {value : Value} {flag : Bool} :
    value.boolean? = some flag ↔ value = .boolean flag := by
  cases value <;> simp [Value.boolean?]

theorem Value.IsDistinct.nodup {table : Table} (h : (Value.table table).IsDistinct) :
    (table.map Prod.fst).Nodup := by
  cases h
  assumption

theorem Value.IsDistinct.of_mem {table : Table} (h : (Value.table table).IsDistinct)
    {key : String} {value : Value} (hmem : (key, value) ∈ table) : value.IsDistinct := by
  cases h with
  | table _ hentries => exact hentries _ hmem

end Toml

namespace Settings

open Toml (Table Value)

variable {α : Type} {table : Table} {key : String} {Means : Value → α → Prop}
  {read? : Value → Option α} {missing x : α}

/-! ## A single key -/

/-- A setting is what its key means in a table, or the default if there is no such key. -/
structure Overlays (table : Table) (key : String) (Means : Value → α → Prop) (missing x : α) :
    Prop where
  of_mem : ∀ value, (key, value) ∈ table → Means value x
  of_not_mem : (∀ value, (key, value) ∉ table) → x = missing

theorem overlays_iff_of_mem (hnodup : (table.map Prod.fst).Nodup) {value : Value}
    (hmem : (key, value) ∈ table) : Overlays table key Means missing x ↔ Means value x := by
  constructor
  · intro h
    exact h.of_mem value hmem
  · intro hmeans
    refine ⟨?_, fun hnone => absurd hmem (hnone value)⟩
    intro other hother
    cases List.inj_on_of_nodup_map hnodup hmem hother rfl
    exact hmeans

theorem overlays_iff_of_not_mem (hnone : ∀ value, (key, value) ∉ table) :
    Overlays table key Means missing x ↔ x = missing := by
  constructor
  · intro h
    exact h.of_not_mem hnone
  · rintro rfl
    exact ⟨fun value hmem => absurd hmem (hnone value), fun _ => rfl⟩

theorem overlaid_eq_some_iff (hnodup : (table.map Prod.fst).Nodup)
    (hread : ∀ value x, (key, value) ∈ table → (read? value = some x ↔ Means value x)) :
    overlaid table key read? missing = some x ↔ Overlays table key Means missing x := by
  unfold overlaid
  split
  · rename_i hfind
    rw [overlays_iff_of_not_mem (Toml.Table.find?_eq_none_iff.mp hfind), Option.some.injEq, eq_comm]
  · rename_i value hfind
    have hmem := Toml.mem_of_lookup_eq_some hfind
    rw [overlays_iff_of_mem hnodup hmem, hread value x hmem]

/-- Some setting overlays the default exactly if the value of the key means one. -/
theorem exists_overlays_iff (hnodup : (table.map Prod.fst).Nodup) :
    (∃ x, Overlays table key Means missing x) ↔
      ∀ value, (key, value) ∈ table → ∃ x, Means value x := by
  constructor
  · rintro ⟨x, hx⟩ value hmem
    exact ⟨x, hx.of_mem value hmem⟩
  · intro h
    by_cases hkey : ∃ value, (key, value) ∈ table
    · obtain ⟨value, hmem⟩ := hkey
      obtain ⟨x, hx⟩ := h value hmem
      exact ⟨x, (overlays_iff_of_mem hnodup hmem).mpr hx⟩
    · exact ⟨missing, (overlays_iff_of_not_mem (not_exists.mp hkey)).mpr rfl⟩

/-! ## Kinds of values -/

/-- A value is a text. -/
def IsText (value : Value) (text : String) : Prop :=
  value = .string text

/-- A value is a truth value. -/
def IsFlag (value : Value) (flag : Bool) : Prop :=
  value = .boolean flag

/-- A value names an alignment: it is the name, or a table with the name as its only key and
nothing in it. -/
inductive NamesAlignment : Value → Alignment → Prop
  | string (alignment : Alignment) : NamesAlignment (.string alignment.name) alignment
  | emptyTable (alignment : Alignment) :
      NamesAlignment (.table [(alignment.name, .table [])]) alignment
  | emptyArray (alignment : Alignment) :
      NamesAlignment (.table [(alignment.name, .array [])]) alignment

/-- Every number under keys of other names can be represented. -/
def OthersFit (known : List String) (table : Table) : Prop :=
  ∀ key value, (key, value) ∈ table → key ∉ known → value.isRepresentable

theorem othersRepresentable_iff {known : List String} {table : Table} :
    othersRepresentable known table = true ↔ OthersFit known table := by
  simp only [othersRepresentable, OthersFit, List.all_eq_true, Bool.or_eq_true, List.contains_iff_mem,
    Prod.forall]
  constructor
  · intro h key value hmem hknown
    exact (h key value hmem).resolve_left hknown
  · intro h key value hmem
    exact or_iff_not_imp_left.mpr (h key value hmem)

theorem alignmentNamed?_eq_some_iff {name : String} {alignment : Alignment} :
    alignmentNamed? name = some alignment ↔ name = alignment.name := by
  unfold alignmentNamed?
  constructor
  · intro h
    have hname := List.find?_some h
    exact (of_decide_eq_true hname).symm
  · rintro rfl
    cases alignment <;> rfl

theorem isEmptyCollection_iff {value : Value} :
    isEmptyCollection value = true ↔ value = .table [] ∨ value = .array [] := by
  unfold isEmptyCollection
  split <;> simp_all

theorem alignmentOf?_eq_some_iff {value : Value} {alignment : Alignment} :
    alignmentOf? value = some alignment ↔ NamesAlignment value alignment := by
  constructor
  · intro h
    unfold alignmentOf? at h
    split at h
    · obtain rfl := alignmentNamed?_eq_some_iff.mp h
      exact .string alignment
    · rename_i name inner
      split_ifs at h with hempty
      obtain rfl := alignmentNamed?_eq_some_iff.mp h
      rcases isEmptyCollection_iff.mp hempty with rfl | rfl
      · exact .emptyTable alignment
      · exact .emptyArray alignment
    · cases h
  · intro h
    cases h with
    | string => exact alignmentNamed?_eq_some_iff.mpr rfl
    | emptyTable => exact alignmentNamed?_eq_some_iff.mpr rfl
    | emptyArray => exact alignmentNamed?_eq_some_iff.mpr rfl

/-! ## Labels -/

/-- The labels and their keys, in the order in which an array gives them. -/
def labelFields : List (String × (Labels → String)) :=
  [("author", Labels.author), ("author_date", Labels.authorDate), ("committer", Labels.committer),
    ("commit_date", Labels.commitDate), ("commit_hash", Labels.commitHash),
    ("children", Labels.children), ("parents", Labels.parents)]

theorem map_fst_labelFields : labelFields.map Prod.fst = labelKeys :=
  rfl

theorem labels_ext {first second : Labels}
    (h : ∀ field ∈ labelFields, field.2 first = field.2 second) : first = second := by
  simp only [labelFields, List.forall_mem_cons] at h
  obtain ⟨hauthor, hauthorDate, hcommitter, hcommitDate, hcommitHash, hchildren, hparents, -⟩ := h
  cases first
  cases second
  simp_all

/-- A table gives labels: each is overlaid on its own default, and numbers under other keys can be
represented. -/
structure GivesLabels (table : Table) (labels : Labels) : Prop where
  overlays : ∀ field ∈ labelFields,
    Overlays table field.1 IsText (field.2 {}) (field.2 labels)
  othersFit : OthersFit labelKeys table

/-- The first items of an array are texts, and the labels are these in order; the labels after the
last item keep their defaults. -/
def ListsLabels (items : List Value) (labels : Labels) : Prop :=
  ∃ texts : List String, items.take labelFields.length = texts.map Value.string ∧
    ∀ (i : Nat) (key : String) (label : Labels → String), labelFields[i]? = some (key, label) →
      label labels = texts[i]?.getD (label {})

/-- A value names labels. A date or time says nothing of them. -/
inductive NamesLabels : Value → Labels → Prop
  | table {table : Table} {labels : Labels} (gives : GivesLabels table labels) :
      NamesLabels (.table table) labels
  | array {items : List Value} {labels : Labels} (lists : ListsLabels items labels) :
      NamesLabels (.array items) labels
  | moment (text : String) : NamesLabels (.moment text) {}

theorem labelsOfTable?_eq_some_iff {table : Table} (hnodup : (table.map Prod.fst).Nodup)
    {labels : Labels} : labelsOfTable? table = some labels ↔ GivesLabels table labels := by
  have hoverlaid (key missing text : String) :
      overlaid table key Value.string? missing = some text ↔
        Overlays table key IsText missing text :=
    overlaid_eq_some_iff hnodup fun value x _ => Value.string?_eq_some_iff
  simp only [labelsOfTable?, Option.bind_eq_bind, Option.bind_eq_some_iff, hoverlaid]
  constructor
  · rintro ⟨author, hauthor, authorDate, hauthorDate, committer, hcommitter, commitDate,
      hcommitDate, commitHash, hcommitHash, children, hchildren, parents, hparents, h⟩
    split_ifs at h with hothers
    cases h
    refine ⟨?_, othersRepresentable_iff.mp hothers⟩
    simp only [labelFields, List.forall_mem_cons]
    exact ⟨hauthor, hauthorDate, hcommitter, hcommitDate, hcommitHash, hchildren, hparents,
      by simp⟩
  · rintro ⟨hfields, hothers⟩
    simp only [labelFields, List.forall_mem_cons] at hfields
    obtain ⟨hauthor, hauthorDate, hcommitter, hcommitDate, hcommitHash, hchildren, hparents, -⟩ :=
      hfields
    refine ⟨_, hauthor, _, hauthorDate, _, hcommitter, _, hcommitDate, _, hcommitHash, _,
      hchildren, _, hparents, ?_⟩
    rw [if_pos (othersRepresentable_iff.mpr hothers)]

theorem labelsOfTexts_field {texts : List String} {i : Nat} {key : String}
    {label : Labels → String} (h : labelFields[i]? = some (key, label)) :
    label (labelsOfTexts texts) = texts[i]?.getD (label {}) := by
  obtain ⟨hi, heq⟩ := List.getElem?_eq_some_iff.mp h
  have hlt : i < 7 := hi
  interval_cases i <;> cases heq <;> rfl

theorem mapM_string?_eq_some_iff {items : List Value} {texts : List String} :
    items.mapM Value.string? = some texts ↔ items = texts.map Value.string := by
  induction items generalizing texts with
  | nil => cases texts <;> simp
  | cons item items ih =>
      rw [List.mapM_cons]
      simp only [Option.bind_eq_bind, Option.bind_eq_some_iff, Value.string?_eq_some_iff, ih]
      cases texts <;> simp [eq_comm, and_comm]

theorem listsLabels_iff {items : List Value} {labels : Labels} :
    ((items.take labelKeys.length).mapM Value.string?).map labelsOfTexts = some labels ↔
      ListsLabels items labels := by
  rw [Option.map_eq_some_iff]
  simp only [mapM_string?_eq_some_iff]
  constructor
  · rintro ⟨texts, htexts, rfl⟩
    exact ⟨texts, htexts, fun i key label => labelsOfTexts_field⟩
  · rintro ⟨texts, htexts, hlabels⟩
    refine ⟨texts, htexts, labels_ext ?_⟩
    rintro ⟨key, label⟩ hmem
    obtain ⟨i, hi⟩ := List.mem_iff_getElem?.mp hmem
    exact (labelsOfTexts_field hi).trans (hlabels i key label hi).symm

theorem labelsOf?_eq_some_iff {value : Value} (hvalue : value.IsDistinct) {labels : Labels} :
    labelsOf? value = some labels ↔ NamesLabels value labels := by
  constructor
  · intro h
    unfold labelsOf? at h
    split at h
    · exact .table ((labelsOfTable?_eq_some_iff hvalue.nodup).mp h)
    · exact .array (listsLabels_iff.mp h)
    · cases h
      exact .moment _
    · cases h
  · intro h
    cases h with
    | table hgives => exact (labelsOfTable?_eq_some_iff hvalue.nodup).mpr hgives
    | array hlists => exact listsLabels_iff.mpr hlists
    | moment => rfl

/-! ## All settings -/

/-- A table says settings: each is overlaid on its own default, and numbers under other keys can be
represented. -/
structure Says (table : Table) (settings : Settings) : Prop where
  alignment : Overlays table "style" NamesAlignment ({} : Settings).alignment settings.alignment
  links : Overlays table "links" IsFlag ({} : Settings).links settings.links
  scheme : Overlays table "commit_link_scheme" IsText ({} : Settings).scheme settings.scheme
  pattern : Overlays table "date_format" IsText ({} : Settings).pattern settings.pattern
  labels : Overlays table "labels" NamesLabels ({} : Settings).labels settings.labels
  othersFit : OthersFit keys table

theorem ofTable?_eq_some_iff {table : Table} (h : (Value.table table).IsDistinct)
    {settings : Settings} : ofTable? table = some settings ↔ Says table settings := by
  have halignment (x : Alignment) :
      overlaid table "style" alignmentOf? ({} : Settings).alignment = some x ↔
        Overlays table "style" NamesAlignment ({} : Settings).alignment x :=
    overlaid_eq_some_iff h.nodup fun value x _ => alignmentOf?_eq_some_iff
  have hlinks (x : Bool) :
      overlaid table "links" Value.boolean? ({} : Settings).links = some x ↔
        Overlays table "links" IsFlag ({} : Settings).links x :=
    overlaid_eq_some_iff h.nodup fun value x _ => Value.boolean?_eq_some_iff
  have htext (key missing x : String) :
      overlaid table key Value.string? missing = some x ↔ Overlays table key IsText missing x :=
    overlaid_eq_some_iff h.nodup fun value x _ => Value.string?_eq_some_iff
  have hlabels (x : Labels) :
      overlaid table "labels" labelsOf? ({} : Settings).labels = some x ↔
        Overlays table "labels" NamesLabels ({} : Settings).labels x :=
    overlaid_eq_some_iff h.nodup fun value x hmem => labelsOf?_eq_some_iff (h.of_mem hmem)
  simp only [ofTable?, Option.bind_eq_bind, Option.bind_eq_some_iff, halignment, hlinks, htext,
    hlabels]
  constructor
  · rintro ⟨_, halignment, _, hlinks, _, hscheme, _, hpattern, _, hlabels, h⟩
    split_ifs at h with hothers
    cases h
    exact ⟨halignment, hlinks, hscheme, hpattern, hlabels, othersRepresentable_iff.mp hothers⟩
  · intro h
    refine ⟨_, h.alignment, _, h.links, _, h.scheme, _, h.pattern, _, h.labels, ?_⟩
    rw [if_pos (othersRepresentable_iff.mpr h.othersFit)]

/-! ## Acceptable tables -/

/-- A value of the kind that labels take. -/
inductive IsLabels : Value → Prop
  | table {table : Table}
      (isText : ∀ key ∈ labelKeys, ∀ value, (key, value) ∈ table → ∃ text, IsText value text)
      (othersFit : OthersFit labelKeys table) : IsLabels (.table table)
  | array {items : List Value}
      (isText : ∀ item ∈ items.take labelKeys.length, ∃ text, IsText item text) :
      IsLabels (.array items)
  | moment (text : String) : IsLabels (.moment text)

/-- Every known key of a table has a value of its kind, and every number under another key can be
represented. -/
structure IsAcceptable (table : Table) : Prop where
  style : ∀ value, ("style", value) ∈ table → ∃ alignment, NamesAlignment value alignment
  links : ∀ value, ("links", value) ∈ table → ∃ flag, IsFlag value flag
  scheme : ∀ value, ("commit_link_scheme", value) ∈ table → ∃ text, IsText value text
  pattern : ∀ value, ("date_format", value) ∈ table → ∃ text, IsText value text
  labels : ∀ value, ("labels", value) ∈ table → IsLabels value
  othersFit : OthersFit keys table

theorem exists_givesLabels_iff {table : Table} (hnodup : (table.map Prod.fst).Nodup) :
    (∃ labels, GivesLabels table labels) ↔ IsLabels (.table table) := by
  constructor
  · rintro ⟨labels, hgives⟩
    refine .table ?_ hgives.othersFit
    intro key hkey value hmem
    rw [← map_fst_labelFields] at hkey
    obtain ⟨field, hfield, rfl⟩ := List.mem_map.mp hkey
    exact ⟨_, (hgives.overlays field hfield).of_mem value hmem⟩
  · rintro (⟨htext, hothers⟩ | _)
    have hfield (key missing : String) (hkey : key ∈ labelKeys) :
        ∃ text, Overlays table key IsText missing text :=
      (exists_overlays_iff hnodup).mpr (htext key hkey)
    obtain ⟨author, hauthor⟩ := hfield "author" ({} : Labels).author (by simp [labelKeys])
    obtain ⟨authorDate, hauthorDate⟩ :=
      hfield "author_date" ({} : Labels).authorDate (by simp [labelKeys])
    obtain ⟨committer, hcommitter⟩ :=
      hfield "committer" ({} : Labels).committer (by simp [labelKeys])
    obtain ⟨commitDate, hcommitDate⟩ :=
      hfield "commit_date" ({} : Labels).commitDate (by simp [labelKeys])
    obtain ⟨commitHash, hcommitHash⟩ :=
      hfield "commit_hash" ({} : Labels).commitHash (by simp [labelKeys])
    obtain ⟨children, hchildren⟩ := hfield "children" ({} : Labels).children (by simp [labelKeys])
    obtain ⟨parents, hparents⟩ := hfield "parents" ({} : Labels).parents (by simp [labelKeys])
    refine ⟨{ author, authorDate, committer, commitDate, commitHash, children, parents }, ?_,
      hothers⟩
    simp only [labelFields, List.forall_mem_cons]
    exact ⟨hauthor, hauthorDate, hcommitter, hcommitDate, hcommitHash, hchildren, hparents,
      by simp⟩

theorem exists_listsLabels_iff {items : List Value} :
    (∃ labels, ListsLabels items labels) ↔ IsLabels (.array items) := by
  constructor
  · rintro ⟨labels, texts, htexts, -⟩
    refine .array ?_
    intro item hitem
    have hmem : item ∈ texts.map Value.string := by
      rw [← htexts]
      exact hitem
    obtain ⟨text, -, rfl⟩ := List.mem_map.mp hmem
    exact ⟨text, rfl⟩
  · rintro (_ | htext)
    have hrange : items.take labelFields.length ∈ Set.range (List.map Value.string) := by
      rw [Set.range_list_map]
      intro item hitem
      obtain ⟨text, rfl⟩ := htext item hitem
      exact ⟨text, rfl⟩
    obtain ⟨texts, htexts⟩ := hrange
    exact ⟨labelsOfTexts texts, texts, htexts.symm, fun i key label => labelsOfTexts_field⟩

theorem exists_namesLabels_iff {value : Value} (h : value.IsDistinct) :
    (∃ labels, NamesLabels value labels) ↔ IsLabels value := by
  constructor
  · rintro ⟨labels, hlabels⟩
    cases hlabels with
    | table hgives => exact (exists_givesLabels_iff h.nodup).mp ⟨labels, hgives⟩
    | array hlists => exact exists_listsLabels_iff.mp ⟨labels, hlists⟩
    | moment text => exact .moment text
  · intro hlabels
    have hkind := hlabels
    cases hkind with
    | table =>
        obtain ⟨labels, hgives⟩ := (exists_givesLabels_iff h.nodup).mpr hlabels
        exact ⟨labels, .table hgives⟩
    | array =>
        obtain ⟨labels, hlists⟩ := exists_listsLabels_iff.mpr hlabels
        exact ⟨labels, .array hlists⟩
    | moment text => exact ⟨{}, .moment text⟩

/-- There are settings that a table says exactly if its values are of the kinds of their keys. -/
theorem exists_says_iff {table : Table} (h : (Value.table table).IsDistinct) :
    (∃ settings, Says table settings) ↔ IsAcceptable table := by
  constructor
  · rintro ⟨settings, hsaid⟩
    refine ⟨?_, ?_, ?_, ?_, ?_, hsaid.othersFit⟩
    · exact fun value hmem => ⟨_, hsaid.alignment.of_mem value hmem⟩
    · exact fun value hmem => ⟨_, hsaid.links.of_mem value hmem⟩
    · exact fun value hmem => ⟨_, hsaid.scheme.of_mem value hmem⟩
    · exact fun value hmem => ⟨_, hsaid.pattern.of_mem value hmem⟩
    · intro value hmem
      exact (exists_namesLabels_iff (h.of_mem hmem)).mp ⟨_, hsaid.labels.of_mem value hmem⟩
  · intro hkinds
    have hlabelled : ∀ value, ("labels", value) ∈ table → ∃ labels, NamesLabels value labels :=
      fun value hmem => (exists_namesLabels_iff (h.of_mem hmem)).mpr (hkinds.labels value hmem)
    obtain ⟨alignment, halignment⟩ := (exists_overlays_iff h.nodup).mpr hkinds.style
    obtain ⟨links, hlinks⟩ := (exists_overlays_iff h.nodup).mpr hkinds.links
    obtain ⟨scheme, hscheme⟩ := (exists_overlays_iff h.nodup).mpr hkinds.scheme
    obtain ⟨pattern, hpattern⟩ := (exists_overlays_iff h.nodup).mpr hkinds.pattern
    obtain ⟨labels, hlabels⟩ := (exists_overlays_iff h.nodup).mpr hlabelled
    exact ⟨⟨alignment, links, scheme, pattern, labels⟩,
      halignment, hlinks, hscheme, hpattern, hlabels, hkinds.othersFit⟩

end Settings

end CommitHeader
