import CommitHeader.Proofs.Text.Utf8
import CommitHeader.Proofs.Toml.Statement
import CommitHeader.Settings.File
import Mathlib

/-!
# Saved settings

Settings are saved as a document of eleven entries, seven of them below the header of the labels.
The reader finds exactly these statements, the table they make names every setting once, and so
nothing is lost: saved settings are loaded as they were, or refused for their own fault.
-/

namespace CommitHeader.Settings

open Toml (Table Value Statement IsBareName)

/-- The labels as a table. -/
def labelsTable (labels : Labels) : Table :=
  [("author", .string labels.author), ("author_date", .string labels.authorDate),
    ("committer", .string labels.committer), ("commit_date", .string labels.commitDate),
    ("commit_hash", .string labels.commitHash), ("children", .string labels.children),
    ("parents", .string labels.parents)]

/-- The settings other than the labels as a table. -/
def plainTable (settings : Settings) : Table :=
  [("style", .string settings.alignment.name), ("links", .boolean settings.links),
    ("commit_link_scheme", .string settings.scheme), ("date_format", .string settings.pattern)]

/-- The settings as a table. -/
def table (settings : Settings) : Table :=
  settings.plainTable ++ [("labels", .table (labelsTable settings.labels))]

/-- The entries of a table as statements. -/
def entriesOf (table : Table) : List Statement :=
  table.map fun entry => .entry [entry.1] entry.2

/-- The statements of saved settings. -/
def statements (settings : Settings) : List Statement :=
  entriesOf settings.plainTable ++ .header ["labels"] :: entriesOf (labelsTable settings.labels)

theorem isBareName_of_mem {key : String} (h : key ∈ keys ++ labelKeys) : IsBareName key := by
  have hkeys : ∀ key ∈ keys ++ labelKeys,
      (!key.toList.isEmpty && key.toList.all Toml.isBare) = true := by
    simp [keys, labelKeys, Toml.isBare]
  have hkey := hkeys key h
  simp only [Bool.and_eq_true, Bool.not_eq_true', List.isEmpty_eq_false_iff,
    List.all_eq_true] at hkey
  exact ⟨hkey.1, hkey.2⟩

theorem all?_entryLine {key : String} (h : key ∈ keys ++ labelKeys) {text : List Char} {v : Value}
    (hspace : ∀ c ∈ text.head?, Toml.isSpace c = false) {rest : List Char}
    (hvalue : Toml.value? Toml.maxDepth (text ++ '\n' :: rest) = some (v, '\n' :: rest)) :
    Statement.all? (entryLine key text ++ rest) =
      (Statement.all? rest).map (.entry [key] v :: ·) := by
  have hentry := Statement.all?_entry (isBareName_of_mem h) hspace hvalue
  simpa [entryLine] using hentry

theorem head?_write (text : String) :
    (Toml.StringForm.write text).head? = some (Toml.StringForm.forText text.toList).quote := by
  unfold Toml.StringForm.write
  dsimp only
  generalize Toml.StringForm.forText text.toList = form
  cases form <;> rfl

theorem all?_textLine {key : String} (h : key ∈ keys ++ labelKeys) (text : String)
    (rest : List Char) :
    Statement.all? (textLine key text ++ rest) =
      (Statement.all? rest).map (.entry [key] (.string text) :: ·) := by
  have hspace : ∀ c ∈ (Toml.StringForm.write text).head?, Toml.isSpace c = false := by
    rw [head?_write]
    rintro c ⟨⟩
    cases Toml.StringForm.forText text.toList <;> decide
  exact all?_entryLine h hspace (Toml.value?_write text rest Toml.maxDepth)

theorem all?_linksLine (flag : Bool) (rest : List Char) :
    Statement.all? (entryLine "links"
        (if flag then ['t', 'r', 'u', 'e'] else ['f', 'a', 'l', 's', 'e']) ++ rest) =
      (Statement.all? rest).map (.entry ["links"] (.boolean flag) :: ·) := by
  have hspace : ∀ c ∈ (if flag then ['t', 'r', 'u', 'e'] else ['f', 'a', 'l', 's', 'e']).head?,
      Toml.isSpace c = false := by
    cases flag <;> (rintro c ⟨⟩; decide)
  exact all?_entryLine (by decide) hspace (Toml.value?_boolean flag rest Toml.maxDepth)

theorem all?_labelsHeader (rest : List Char) :
    Statement.all? (['\n', '[', 'l', 'a', 'b', 'e', 'l', 's', ']', '\n'] ++ rest) =
      (Statement.all? rest).map (.header ["labels"] :: ·) :=
  Statement.all?_header (isBareName_of_mem (by decide : "labels" ∈ keys ++ labelKeys)) rest

theorem all?_write (settings : Settings) :
    Statement.all? settings.write.toList = some settings.statements := by
  have hend : Statement.all? [] = some [] := by
    rw [Statement.all?]
    rfl
  have hparents : "parents" ∈ keys ++ labelKeys := by decide
  have hlast := all?_textLine hparents settings.labels.parents []
  rw [List.append_nil] at hlast
  rw [write, String.toList_ofList]
  simp only [List.append_assoc]
  rw [all?_textLine (by decide), all?_linksLine, all?_textLine (by decide),
    all?_textLine (by decide), all?_labelsHeader, all?_textLine (by decide),
    all?_textLine (by decide), all?_textLine (by decide), all?_textLine (by decide),
    all?_textLine (by decide), all?_textLine (by decide), hlast, hend]
  rfl

/-- Every key is new to its table, so the entries of a table are those of its lines. -/
theorem tableOf?_statements (settings : Settings) :
    Toml.tableOf? settings.statements = some settings.table := rfl

theorem ofTable?_table (settings : Settings) : ofTable? settings.table = some settings := by
  obtain ⟨alignment, links, scheme, pattern, labels⟩ := settings
  cases alignment <;> rfl

theorem read?_write (settings : Settings) : read? settings.write = some settings := by
  have hmark : Toml.read? settings.write =
      (Statement.all? settings.write.toList).bind Toml.tableOf? := by
    rw [Toml.read?, write, String.toList_ofList]
    rfl
  rw [read?, hmark, all?_write, Option.bind_some, tableOf?_statements, Option.bind_some,
    ofTable?_table]

/-- Saving loses nothing: the text of saved settings says them again, the file is loaded as they
were or refused for their own fault, and no two settings share a text. -/
theorem saved_settings_are_loaded (settings other : Settings) :
    read? settings.write = some settings ∧
      load settings.saved =
        (match settings.fault? with
          | none => .ok settings
          | some fault => .error (.faulty fault)) ∧
      (settings.write = other.write ↔ settings = other) := by
  have hread := read?_write settings
  refine ⟨hread, ?_, ?_, ?_⟩
  · have hload : load settings.saved = ofText settings.write := by
      rw [saved, load, Text.Utf8.decode?_toUTF8]
    rw [hload, ofText, hread]
    cases hfault : settings.fault? <;> simp [hfault]
  · intro hwrite
    have hother := read?_write other
    rw [← hwrite, hread] at hother
    exact Option.some.inj hother
  · rintro rfl
    rfl

end CommitHeader.Settings
