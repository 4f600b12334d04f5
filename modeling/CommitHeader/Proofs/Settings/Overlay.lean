import CommitHeader.Proofs.Settings.Dates
import CommitHeader.Proofs.Settings.Meaning
import CommitHeader.Settings.File
import Mathlib

/-!
# Files of settings overlay the defaults

A file that holds a table is loaded exactly if every known key has a value of its kind and the
settings that come of it make sense. Each of them is then what its key says, or the default. The
order of the keys makes no difference, and neither do keys of other names.
-/

namespace CommitHeader.Settings

open Toml (Table Value)

/-- The table that the text of a file stands for. -/
def tableIn? (content : List UInt8) : Option Table :=
  (Text.Utf8.decode? content).bind Toml.read?

/-- Settings that make sense: dates can be read, and links have a scheme. -/
structure IsSensible (settings : Settings) : Prop where
  pattern : Calendar.Pattern.isValid settings.pattern
  scheme : settings.scheme ≠ ""

theorem fault?_eq_none_iff {settings : Settings} :
    settings.fault? = none ↔ settings.IsSensible := by
  constructor
  · intro h
    refine ⟨isValid_of_fault? h, ?_⟩
    intro hempty
    simp [fault?, isValid_of_fault? h, hempty] at h
  · rintro ⟨hpattern, hscheme⟩
    have hempty : ¬ settings.scheme.isEmpty = true := by simpa using hscheme
    simp [fault?, hpattern, hempty]

/-- What a text gives depends on its settings alone. -/
theorem ofText_congr {first second : String} (h : read? first = read? second) :
    ofText first = ofText second := by
  rw [ofText, ofText, h]

theorem ofText_eq_ok_iff {text : String} {settings : Settings} :
    ofText text = .ok settings ↔ read? text = some settings ∧ settings.IsSensible := by
  rw [ofText, ← fault?_eq_none_iff]
  cases read? text with
  | none => simp
  | some found =>
      dsimp only
      rw [Option.some.injEq]
      cases hfault : found.fault? with
      | none =>
          rw [Except.ok.injEq, iff_self_and]
          rintro rfl
          exact hfault
      | some fault =>
          refine iff_of_false nofun ?_
          rintro ⟨rfl, hnone⟩
          rw [hfault] at hnone
          cases hnone

theorem ofText_eq_malformed_iff {text : String} :
    ofText text = .error .malformed ↔ read? text = none := by
  rw [ofText]
  cases read? text with
  | none => simp
  | some found =>
      dsimp only
      cases found.fault? <;> simp

/-! ## What a table gives -/

section Load

variable {content : List UInt8} {table : Table}

theorem exists_text_of_tableIn? (h : tableIn? content = some table) :
    ∃ text, load (.file content) = ofText text ∧ read? text = ofTable? table := by
  obtain ⟨text, htext, hread⟩ := Option.bind_eq_some_iff.mp h
  refine ⟨text, ?_, ?_⟩
  · rw [load, htext]
  · rw [read?, hread, Option.bind_some]

theorem isDistinct_of_tableIn? (h : tableIn? content = some table) :
    (Value.table table).IsDistinct := by
  obtain ⟨text, -, hread⟩ := Option.bind_eq_some_iff.mp h
  exact Toml.isDistinct_of_read? hread

theorem load_eq_ok_iff (h : tableIn? content = some table) {settings : Settings} :
    load (.file content) = .ok settings ↔ Says table settings ∧ settings.IsSensible := by
  obtain ⟨text, hload, hread⟩ := exists_text_of_tableIn? h
  rw [hload, ofText_eq_ok_iff, hread, ofTable?_eq_some_iff (isDistinct_of_tableIn? h)]

theorem load_eq_malformed_iff (h : tableIn? content = some table) :
    load (.file content) = .error .malformed ↔ ¬ IsAcceptable table := by
  obtain ⟨text, hload, hread⟩ := exists_text_of_tableIn? h
  have hdistinct := isDistinct_of_tableIn? h
  rw [hload, ofText_eq_malformed_iff, hread, ← exists_says_iff hdistinct]
  simp only [← ofTable?_eq_some_iff hdistinct, Option.eq_none_iff_forall_not_mem, not_exists]
  rfl

/-- A table says one thing at most. -/
theorem Says.unique (hdistinct : (Value.table table).IsDistinct) {first second : Settings}
    (hfirst : Says table first) (hsecond : Says table second) : first = second := by
  rw [← ofTable?_eq_some_iff hdistinct] at hfirst hsecond
  exact Option.some.inj (hfirst.symm.trans hsecond)

end Load

/-! ## Tables that say the same -/

/-- Two tables have the same values under some keys. The keys may stand in any order, and there may
be others. -/
def AgreeOn (known : List String) (first second : Table) : Prop :=
  ∀ key ∈ known, ∀ value, (key, value) ∈ first ↔ (key, value) ∈ second

/-- Two values are the same labels: they are equal, or tables that agree on all labels. Numbers
under other keys can be represented in both or in neither. -/
inductive SameLabels : Value → Value → Prop
  | refl (value : Value) : SameLabels value value
  | table {first second : Table} (agree : AgreeOn labelKeys first second)
      (othersFit : OthersFit labelKeys first ↔ OthersFit labelKeys second) :
      SameLabels (.table first) (.table second)

/-- Two tables agree on all settings. Numbers under other keys can be represented in both or in
neither. -/
structure SaysTheSame (first second : Table) : Prop where
  agree : AgreeOn ["style", "links", "commit_link_scheme", "date_format"] first second
  labels : ∀ value, ("labels", value) ∈ first →
    ∃ other, ("labels", other) ∈ second ∧ SameLabels value other
  labels_back : ∀ other, ("labels", other) ∈ second →
    ∃ value, ("labels", value) ∈ first ∧ SameLabels value other
  othersFit : OthersFit keys first ↔ OthersFit keys second

theorem AgreeOn.symm {known : List String} {first second : Table}
    (h : AgreeOn known first second) : AgreeOn known second first :=
  fun key hkey value => (h key hkey value).symm

theorem SameLabels.symm {first second : Value} (h : SameLabels first second) :
    SameLabels second first := by
  cases h with
  | refl => exact .refl first
  | table hagree hfit => exact .table hagree.symm hfit.symm

theorem SaysTheSame.symm {first second : Table} (h : SaysTheSame first second) :
    SaysTheSame second first := by
  refine ⟨h.agree.symm, ?_, ?_, h.othersFit.symm⟩
  · intro other hother
    obtain ⟨value, hvalue, hsame⟩ := h.labels_back other hother
    exact ⟨value, hvalue, hsame.symm⟩
  · intro value hvalue
    obtain ⟨other, hother, hsame⟩ := h.labels value hvalue
    exact ⟨other, hother, hsame.symm⟩

theorem Overlays.mono {α : Type} {first second : Table} {key : String}
    {Means : Value → α → Prop} {missing x : α} (h : Overlays first key Means missing x)
    (hto : ∀ value, (key, value) ∈ first → ∃ other, (key, other) ∈ second)
    (hback : ∀ other, (key, other) ∈ second →
      ∃ value, (key, value) ∈ first ∧ (Means value x → Means other x)) :
    Overlays second key Means missing x := by
  refine ⟨?_, ?_⟩
  · intro other hother
    obtain ⟨value, hvalue, hmeans⟩ := hback other hother
    exact hmeans (h.of_mem value hvalue)
  · intro hnone
    apply h.of_not_mem
    intro value hvalue
    obtain ⟨other, hother⟩ := hto value hvalue
    exact hnone other hother

theorem Overlays.of_agreeOn {α : Type} {known : List String} {first second : Table}
    {key : String} {Means : Value → α → Prop} {missing x : α}
    (h : Overlays first key Means missing x) (hagree : AgreeOn known first second)
    (hkey : key ∈ known) : Overlays second key Means missing x := by
  apply h.mono
  · exact fun value hvalue => ⟨value, (hagree key hkey value).mp hvalue⟩
  · exact fun value hvalue => ⟨value, (hagree key hkey value).mpr hvalue, id⟩

theorem NamesLabels.of_sameLabels {value other : Value} {labels : Labels}
    (h : NamesLabels value labels) (hsame : SameLabels value other) :
    NamesLabels other labels := by
  cases hsame with
  | refl => exact h
  | table hagree hfit =>
      cases h with
      | table hgives =>
          refine .table ⟨?_, hfit.mp hgives.othersFit⟩
          intro field hfield
          apply (hgives.overlays field hfield).of_agreeOn hagree
          rw [← map_fst_labelFields]
          exact List.mem_map_of_mem hfield

theorem Says.of_saysTheSame {first second : Table} {settings : Settings}
    (h : Says first settings) (hsame : SaysTheSame first second) : Says second settings where
  alignment := h.alignment.of_agreeOn hsame.agree (by simp)
  links := h.links.of_agreeOn hsame.agree (by simp)
  scheme := h.scheme.of_agreeOn hsame.agree (by simp)
  pattern := h.pattern.of_agreeOn hsame.agree (by simp)
  labels := by
    apply h.labels.mono
    · intro value hvalue
      obtain ⟨other, hother, -⟩ := hsame.labels value hvalue
      exact ⟨other, hother⟩
    · intro other hother
      obtain ⟨value, hvalue, hlabels⟩ := hsame.labels_back other hother
      exact ⟨value, hvalue, fun h => h.of_sameLabels hlabels⟩
  othersFit := hsame.othersFit.mp h.othersFit

/-- Files whose tables say the same are loaded alike. -/
theorem load_congr {content other : List UInt8} {table otherTable : Table}
    (h : tableIn? content = some table) (hother : tableIn? other = some otherTable)
    (hsame : SaysTheSame table otherTable) : load (.file other) = load (.file content) := by
  obtain ⟨text, hload, hread⟩ := exists_text_of_tableIn? h
  obtain ⟨otherText, hloadOther, hreadOther⟩ := exists_text_of_tableIn? hother
  rw [hload, hloadOther]
  apply ofText_congr
  rw [hread, hreadOther]
  -- Each is whatever its table says.
  apply Option.ext
  intro settings
  rw [ofTable?_eq_some_iff (isDistinct_of_tableIn? h),
    ofTable?_eq_some_iff (isDistinct_of_tableIn? hother)]
  exact ⟨fun hsaid => hsaid.of_saysTheSame hsame.symm, fun hsaid => hsaid.of_saysTheSame hsame⟩

/-! ## Loading -/

/-- A file that holds a table is loaded exactly if the values of the table are of the kinds of their
keys and the settings it says make sense, and these are the settings that are loaded. Another file
whose table differs only in the order of keys, or in keys of other names, comes to the same. So all
settings that are ever loaded make sense. -/
theorem file_overlays_defaults (content : List UInt8) (table : Table)
    (htable : tableIn? content = some table) :
    ((∃ settings, load (.file content) = .ok settings) ↔
      IsAcceptable table ∧ ∀ settings, Says table settings → settings.IsSensible) ∧
    (∀ settings, load (.file content) = .ok settings ↔
      Says table settings ∧ settings.IsSensible) ∧
    (load (.file content) = .error .malformed ↔ ¬ IsAcceptable table) ∧
    (IsAcceptable table → ∃! settings, Says table settings) ∧
    (∀ other otherTable, tableIn? other = some otherTable → SaysTheSame table otherTable →
      load (.file other) = load (.file content)) ∧
    ∀ file settings, load file = .ok settings → settings.IsSensible := by
  have hdistinct := isDistinct_of_tableIn? htable
  refine ⟨?_, fun settings => load_eq_ok_iff htable, load_eq_malformed_iff htable, ?_, ?_, ?_⟩
  · simp only [load_eq_ok_iff htable]
    constructor
    · rintro ⟨settings, hsaid, hsensible⟩
      refine ⟨(exists_says_iff hdistinct).mp ⟨settings, hsaid⟩, ?_⟩
      intro other hother
      rwa [hother.unique hdistinct hsaid]
    · rintro ⟨hacceptable, hsensible⟩
      obtain ⟨settings, hsaid⟩ := (exists_says_iff hdistinct).mpr hacceptable
      exact ⟨settings, hsaid, hsensible settings hsaid⟩
  · intro hacceptable
    obtain ⟨settings, hsaid⟩ := (exists_says_iff hdistinct).mpr hacceptable
    exact ⟨settings, hsaid, fun other hother => hother.unique hdistinct hsaid⟩
  · exact fun other otherTable hother => load_congr htable hother
  · exact fun file settings hload => fault?_eq_none_iff.mp (fault?_of_load hload)

/-- A table with one setting and one label. -/
def sampleTable : Table :=
  [("links", .boolean false), ("labels", .table [("author", .string "A")])]

/-- The same settings in another order, among keys of other names. -/
def rearrangedTable : Table :=
  [("x", .integer 1), ("labels", .table [("y", .integer 2), ("author", .string "A")]),
    ("links", .boolean false)]

theorem tableIn?_sampleTable :
    tableIn? "links = false\nlabels.author = 'A'\n".toUTF8.toList = some sampleTable := by
  cbv

theorem tableIn?_rearrangedTable :
    tableIn? "x = 1\nlabels = \x7by = 2, author = 'A'\x7d\nlinks = false\n".toUTF8.toList =
      some rearrangedTable := by
  cbv

theorem saysTheSame_rearrangedTable : SaysTheSame sampleTable rearrangedTable := by
  have hlabels : SameLabels (.table [("author", .string "A")])
      (.table [("y", .integer 2), ("author", .string "A")]) := by
    refine .table ?_ (iff_of_true ?_ ?_)
    · simp [AgreeOn, labelKeys]
    · exact othersRepresentable_iff.mp (by decide +kernel)
    · exact othersRepresentable_iff.mp (by decide +kernel)
  refine ⟨?_, ?_, ?_, iff_of_true ?_ ?_⟩
  · simp [AgreeOn, sampleTable, rearrangedTable]
  · simpa [sampleTable, rearrangedTable] using hlabels
  · simpa [sampleTable, rearrangedTable] using hlabels
  · exact othersRepresentable_iff.mp (by decide +kernel)
  · exact othersRepresentable_iff.mp (by decide +kernel)

theorem file_overlays_defaults_sample :
    let content := "links = false\nlabels.author = 'A'\n".toUTF8.toList
    let other := "x = 1\nlabels = \x7by = 2, author = 'A'\x7d\nlinks = false\n".toUTF8.toList
    let settings : Settings := { links := false, labels := { author := "A" } }
    tableIn? content = some sampleTable ∧ Says sampleTable settings ∧
      load (.file content) = .ok settings ∧
      tableIn? other = some rearrangedTable ∧ SaysTheSame sampleTable rearrangedTable ∧
      load (.file other) = .ok settings := by
  intro content other settings
  obtain ⟨-, hload, -, -, hsame, -⟩ :=
    file_overlays_defaults content sampleTable tableIn?_sampleTable
  have hsaid : Says sampleTable settings :=
    (ofTable?_eq_some_iff (isDistinct_of_tableIn? tableIn?_sampleTable)).mp rfl
  have hcontent : load (.file content) = .ok settings :=
    (hload settings).mpr ⟨hsaid, by decide +kernel, by decide⟩
  have hother := hsame other _ tableIn?_rearrangedTable saysTheSame_rearrangedTable
  exact ⟨tableIn?_sampleTable, hsaid, hcontent, tableIn?_rearrangedTable,
    saysTheSame_rearrangedTable, hother.trans hcontent⟩

/-- A style may be a table with its name as the only key, a date may stand for labels, and a number
may be too large under a key that nothing else depends on. -/
theorem file_takes_other_kinds :
    let style := "style = \x7bspaces = \x7b\x7d\x7d\n".toUTF8.toList
    let labels := "labels = 2026-10-15\n".toUTF8.toList
    let number := "x = 1000000000000000000000000000000000000000000\n".toUTF8.toList
    (tableIn? style = some [("style", .table [("spaces", .table [])])] ∧
      load (.file style) = .ok { alignment := .spaces }) ∧
    (tableIn? labels = some [("labels", .moment "2026-10-15")] ∧ load (.file labels) = .ok {}) ∧
    tableIn? number = some [("x", .integer (10 ^ 42))] ∧
      load (.file number) = .error .malformed ∧ load (.file []) = .ok {} := by
  refine ⟨⟨?_, ?_⟩, ⟨?_, ?_⟩, ?_, ?_, ?_⟩
  · cbv
  · decide +kernel
  · cbv
  · decide +kernel
  · cbv
  · decide +kernel
  · decide +kernel

end CommitHeader.Settings
