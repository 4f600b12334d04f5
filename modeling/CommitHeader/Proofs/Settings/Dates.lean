import CommitHeader.Proofs.Calendar.Pieces
import CommitHeader.Proofs.Header.Leads
import CommitHeader.Settings.File

/-!
# The dates of loaded settings

Settings are loaded only if every specifier of their pattern is known. That is enough to write a
date as the pattern says, except for a lenient offset, which is known and has no text: then every
date takes the mail form, and a date whose year has no four places has no text at all.
-/

namespace CommitHeader

open Calendar

namespace HeaderStyle

/-- The dates of a header are written as the pattern of its style says, and with them every line
that needs no lookup: nothing else takes their place at any time. -/
structure WritesPattern (style : HeaderStyle) : Prop where
  absolute? : ∀ t : Timestamp, ∃ text,
    Pattern.write? style.dates.pattern (t.instant.atOffset style.dates.offset) = some text ∧
      style.dates.absolute? t = some text
  fixedLines? : ∀ (now : Instant) (commit : Commit) (lead person : String → String),
    ∃ authorDate commitDate,
    style.dates.absolute? commit.authorDate = some authorDate ∧
    style.dates.absolute? commit.commitDate = some commitDate ∧
    style.fixedLines? now commit lead person = some [
      ⟨lead style.labels.author, person commit.author⟩,
      ⟨lead style.labels.authorDate,
        relativeText now commit.authorDate ++ " (" ++ authorDate ++ ")"⟩,
      ⟨lead style.labels.committer, person commit.committer⟩,
      ⟨lead style.labels.commitDate,
        relativeText now commit.commitDate ++ " (" ++ commitDate ++ ")"⟩,
      ⟨lead style.labels.commitHash, commit.id.hex⟩]

/-- The dates of a header are in the mail form, or missing where that has no place for the year. -/
structure FallsBack (style : HeaderStyle) : Prop where
  write?_eq_none : ∀ t : Timestamp,
    Pattern.write? style.dates.pattern (t.instant.atOffset style.dates.offset) = none
  absolute?_eq : ∀ t : Timestamp,
    style.dates.absolute? t = MailDate.write? (t.instant.atOffset style.dates.offset)
  absolute?_eq_none_iff : ∀ t : Timestamp, style.dates.absolute? t = none ↔
    ¬ (0 ≤ (t.instant.atOffset style.dates.offset).date.year ∧
      (t.instant.atOffset style.dates.offset).date.year ≤ 9999)

theorem writesPattern_of_write? {style : HeaderStyle}
    (h : ∀ t, Pattern.write? style.dates.pattern t ≠ none) : style.WritesPattern := by
  have habsolute (t : Timestamp) : ∃ text,
      Pattern.write? style.dates.pattern (t.instant.atOffset style.dates.offset) = some text ∧
        style.dates.absolute? t = some text := by
    obtain ⟨text, htext⟩ := Option.ne_none_iff_exists'.mp (h (t.instant.atOffset style.dates.offset))
    refine ⟨text, htext, ?_⟩
    rw [DateStyle.absolute?, htext]
  refine ⟨habsolute, ?_⟩
  intro now commit lead person
  obtain ⟨authorDate, -, hauthor⟩ := habsolute commit.authorDate
  obtain ⟨commitDate, -, hcommit⟩ := habsolute commit.commitDate
  refine ⟨authorDate, commitDate, hauthor, hcommit, ?_⟩
  rw [HeaderStyle.fixedLines?, DateStyle.text?, DateStyle.text?, hauthor, hcommit]
  rfl

theorem fallsBack_of_write? {style : HeaderStyle}
    (h : ∀ t, Pattern.write? style.dates.pattern t = none) : style.FallsBack := by
  have habsolute (t : Timestamp) :
      style.dates.absolute? t = MailDate.write? (t.instant.atOffset style.dates.offset) := by
    rw [DateStyle.absolute?, h]
  refine ⟨fun t => h _, habsolute, ?_⟩
  intro t
  rw [habsolute, MailDate.write?_eq_none_iff]

end HeaderStyle

namespace Settings

/-! ## What is loaded -/

theorem isValid_of_fault? {settings : Settings} (h : settings.fault? = none) :
    Pattern.isValid settings.pattern = true := by
  unfold fault? at h
  split_ifs at h with hinvalid
  simpa using hinvalid

theorem fault?_of_ofText {text : String} {settings : Settings} (h : ofText text = .ok settings) :
    settings.fault? = none := by
  unfold ofText at h
  split at h
  · cases h
  · split at h
    · cases h
    · cases h
      assumption

/-- What is loaded has no fault. -/
theorem fault?_of_load {file : StoredFile} {settings : Settings} (h : load file = .ok settings) :
    settings.fault? = none := by
  cases file with
  | missing =>
      cases h
      decide +kernel
  | directory => cases h
  | file content =>
      unfold load at h
      dsimp only at h
      split at h
      · exact fault?_of_ofText h
      · cases h

/-- Headers under loaded settings have their dates as configured, at every offset and time, exactly
if the pattern has no lenient offset. A pattern with one says so, and no date is written in it. -/
theorem loaded_pattern_is_written (file : StoredFile) (settings : Settings)
    (hload : load file = .ok settings) (offset : Int) :
    (.lenientOffset ∉ Pattern.items settings.pattern.toList →
      (settings.style offset).WritesPattern) ∧
    (.lenientOffset ∈ Pattern.items settings.pattern.toList →
      (settings.style offset).FallsBack ∧ ['%', '#', 'z'] <:+: settings.pattern.toList) := by
  have hvalid := isValid_of_fault? (fault?_of_load hload)
  refine ⟨?_, ?_⟩
  · intro hmem
    apply HeaderStyle.writesPattern_of_write?
    exact fun t => mt (Pattern.write?_eq_none_iff hvalid).mp hmem
  · intro hmem
    exact ⟨HeaderStyle.fallsBack_of_write? fun t => (Pattern.write?_eq_none_iff hvalid).mpr hmem,
      Pattern.infix_of_lenientOffset_mem hmem⟩

theorem loaded_pattern_is_written_sample :
    load (.file "date_format = '%F %R %:z'\n".toUTF8.toList) =
        .ok { pattern := "%F %R %:z" } ∧
      (({ pattern := "%F %R %:z" } : Settings).style 3600).WritesPattern := by
  have hload : load (.file "date_format = '%F %R %:z'\n".toUTF8.toList) =
      .ok { pattern := "%F %R %:z" } := by
    decide +kernel
  have hmem : .lenientOffset ∉ Pattern.items "%F %R %:z".toList := by
    decide +kernel
  exact ⟨hload, (loaded_pattern_is_written _ _ hload 3600).1 hmem⟩

/-- A pattern that no date is ever written in is loaded: one date takes the mail form instead, and
the year of the other has no place there. -/
theorem loaded_pattern_not_written :
    let file : StoredFile := .file "date_format = '%#z'\n".toUTF8.toList
    ∃ settings, load file = .ok settings ∧
      Pattern.write? settings.pattern (Instant.atOffset ⟨0, 0⟩ 0) = none ∧
      (settings.style 0).dates.absolute? ⟨⟨0, 0⟩, 0⟩ = some "Thu, 1 Jan 1970 00:00:00 +0000" ∧
      (settings.style 0).dates.absolute? ⟨⟨253402300800, 0⟩, 0⟩ = none ∧
      ¬ (settings.style 0).WritesPattern := by
  have hload : load (.file "date_format = '%#z'\n".toUTF8.toList) =
      .ok { pattern := "%#z" } := by
    decide +kernel
  have hfar : (({ pattern := "%#z" } : Settings).style 0).dates.absolute? ⟨⟨253402300800, 0⟩, 0⟩ =
      none := by
    decide +kernel
  refine ⟨{ pattern := "%#z" }, hload, by decide +kernel, by decide +kernel, hfar, ?_⟩
  intro hwrites
  obtain ⟨text, -, htext⟩ := hwrites.absolute? ⟨⟨253402300800, 0⟩, 0⟩
  rw [hfar] at htext
  cases htext

end Settings

end CommitHeader
