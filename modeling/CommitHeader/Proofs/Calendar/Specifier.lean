import CommitHeader.Calendar.Pattern
import Mathlib.Tactic.Common

/-!
# Specifiers

What may follow the percent sign of a pattern: the letter of a number, perhaps behind a modifier, or
another spelling. No specifier is the beginning of another one, so a text begins with at most one,
and this is the one that is read.
-/

namespace CommitHeader.Calendar

open Text (Fill)

/-! ## Letters -/

theorem NumberField.ofLetter?_of_mem :
    ∀ entry ∈ specifiers, ofLetter? entry.1 = some entry.2 := by
  decide

theorem NumberField.mem_of_ofLetter? {c : Char} {entry : NumberField × Fill}
    (h : ofLetter? c = some entry) : (c, entry) ∈ specifiers := by
  obtain ⟨before, after, hspecifiers, -⟩ := List.lookup_eq_some_iff.mp h
  rw [hspecifiers]
  exact List.mem_append_right _ List.mem_cons_self

/-- No modifier is a letter for a number. -/
theorem NumberField.fillOfModifier?_of_mem :
    ∀ entry ∈ specifiers, fillOfModifier? entry.1 = none := by
  decide

namespace Item

/-- The other spellings do not begin with a modifier or with a letter for a number. -/
theorem head?_of_mem : ∀ entry ∈ specifiers, entry.1.head?.any fun c =>
    fillOfModifier? c = none ∧ NumberField.ofLetter? c = none := by
  decide

theorem eq_of_isPrefix :
    ∀ entry ∈ specifiers, ∀ other ∈ specifiers, entry.1 <+: other.1 → entry = other := by
  decide +kernel

/-! ## Spellings -/

/-- What may follow a percent sign, and the items that it stands for. -/
inductive IsSpecifier : List Char → List Item → Prop
  | number {c : Char} {field : NumberField} {fill : Fill}
      (h : (c, field, fill) ∈ NumberField.specifiers) : IsSpecifier [c] [.number field fill]
  | modified {m c : Char} {field : NumberField} {own fill : Fill}
      (hm : fillOfModifier? m = some fill) (h : (c, field, own) ∈ NumberField.specifiers) :
      IsSpecifier [m, c] [.number field fill]
  | other {spelling : List Char} {items : List Item} (h : (spelling, items) ∈ specifiers) :
      IsSpecifier spelling items

theorem isSpecifier_of_ofSpecifier? {cs rest : List Char} {items : List Item}
    (h : ofSpecifier? cs = some (items, rest)) :
    ∃ spelling, IsSpecifier spelling items ∧ cs = spelling ++ rest := by
  cases cs with
  | nil => simp [ofSpecifier?] at h
  | cons c cs =>
      simp only [ofSpecifier?] at h
      split at h
      · rename_i field fill hletter
        cases h
        exact ⟨[c], .number (NumberField.mem_of_ofLetter? hletter), rfl⟩
      · obtain ⟨entry, hentry, h⟩ := List.exists_of_findSome?_eq_some h
        obtain ⟨after, hdrop, h⟩ := Option.map_eq_some_iff.mp h
        cases h
        exact ⟨entry.1, .other hentry, Text.dropLead?_eq_some_iff.mp hdrop⟩

theorem isSpecifier_of_read? {cs rest : List Char} {items : List Item}
    (h : read? cs = some (items, rest)) :
    ∃ spelling, IsSpecifier spelling items ∧ cs = spelling ++ rest := by
  match cs, h with
  | [], h => simp [read?] at h
  | [m], h =>
      simp only [read?] at h
      split at h
      · exact isSpecifier_of_ofSpecifier? h
      · cases h
  | m :: c :: cs, h =>
      simp only [read?] at h
      split at h
      · exact isSpecifier_of_ofSpecifier? h
      · rename_i fill hm
        split at h
        · rename_i field own hletter
          cases h
          exact ⟨[m, c], .modified hm (NumberField.mem_of_ofLetter? hletter), rfl⟩
        · cases h

/-- No other spelling begins the text, so the search ends with this one. -/
theorem findSome?_spelling {spelling : List Char} {items : List Item}
    (h : (spelling, items) ∈ specifiers) (rest : List Char) :
    (specifiers.findSome? fun (other, items) =>
      (Text.dropLead? other (spelling ++ rest)).map fun rest => (items, rest)) =
        some (items, rest) := by
  cases hsearch : specifiers.findSome? fun (other, items) =>
      (Text.dropLead? other (spelling ++ rest)).map fun rest => (items, rest) with
  | none =>
      have hnone := List.findSome?_eq_none_iff.mp hsearch _ h
      rw [Option.map_eq_none_iff, Text.dropLead?_eq_some_iff.mpr rfl] at hnone
      cases hnone
  | some found =>
      obtain ⟨entry, hentry, hfound⟩ := List.exists_of_findSome?_eq_some hsearch
      obtain ⟨after, hdrop, rfl⟩ := Option.map_eq_some_iff.mp hfound
      have hlead := Text.dropLead?_eq_some_iff.mp hdrop
      have hsame : entry = (spelling, items) := by
        rcases List.prefix_or_prefix_of_prefix ⟨after, hlead.symm⟩ ⟨rest, rfl⟩ with hpre | hpre
        · exact eq_of_isPrefix entry hentry _ h hpre
        · exact (eq_of_isPrefix _ h entry hentry hpre).symm
      subst hsame
      rw [List.append_cancel_left hlead]

theorem IsSpecifier.read?_append {spelling : List Char} {items : List Item}
    (h : IsSpecifier spelling items) (rest : List Char) :
    read? (spelling ++ rest) = some (items, rest) := by
  cases h with
  | number h =>
      have hm := NumberField.fillOfModifier?_of_mem _ h
      have hletter := NumberField.ofLetter?_of_mem _ h
      simp only [List.singleton_append, read?, ofSpecifier?, hm, hletter]
  | modified hm h =>
      have hletter := NumberField.ofLetter?_of_mem _ h
      simp only [List.cons_append, List.nil_append, read?, hm, hletter]
  | other h =>
      obtain ⟨c, hc, hfirst⟩ := (Option.any_eq_true _ _).mp (head?_of_mem _ h)
      obtain ⟨hm, hletter⟩ := of_decide_eq_true hfirst
      obtain ⟨cs, rfl⟩ := List.head?_eq_some_iff.mp hc
      have hsearch := findSome?_spelling h rest
      simp only [List.cons_append] at hsearch ⊢
      simp only [read?, ofSpecifier?, hm, hletter]
      exact hsearch

/-- What is read is the specifier that a text begins with. -/
theorem read?_eq_some_iff {cs rest : List Char} {items : List Item} :
    read? cs = some (items, rest) ↔
      ∃ spelling, IsSpecifier spelling items ∧ cs = spelling ++ rest := by
  constructor
  · exact isSpecifier_of_read?
  · rintro ⟨spelling, h, rfl⟩
    exact h.read?_append rest

/-! ## Items without a text -/

theorem IsSpecifier.unknown_not_mem {spelling : List Char} {items : List Item}
    (h : IsSpecifier spelling items) : .unknown ∉ items := by
  cases h with
  | number _ => simp
  | modified _ _ => simp
  | other h =>
      have hknown : ∀ entry ∈ specifiers, .unknown ∉ entry.2 := by decide
      exact hknown _ h

/-- One specifier stands for a lenient offset, and for nothing else. -/
theorem IsSpecifier.lenientOffset_mem_iff {spelling : List Char} {items : List Item}
    (h : IsSpecifier spelling items) : .lenientOffset ∈ items ↔ spelling = ['#', 'z'] := by
  cases h with
  | number _ => simp
  | @modified m c _ _ _ hm _ =>
      have hsharp : m ≠ '#' := by
        rintro rfl
        cases hm
      simp [hsharp]
  | other h =>
      have hlenient : ∀ entry ∈ specifiers,
          .lenientOffset ∈ entry.2 ↔ entry.1 = ['#', 'z'] := by
        decide
      exact hlenient _ h

end Item

end CommitHeader.Calendar
