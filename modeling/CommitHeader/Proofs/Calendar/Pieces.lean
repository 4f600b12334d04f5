import CommitHeader.Proofs.Calendar.MailDate
import CommitHeader.Proofs.Calendar.Pattern
import CommitHeader.Proofs.Calendar.Shown

/-!
# Patterns in pieces

A pattern is read as pieces, each a character that stands for itself or a percent sign with a
specifier, up to its end or up to a percent sign that opens nothing. In the first case the date is
the texts of the pieces, unless one of them is a lenient offset. In every other case nothing is kept
of the pieces before: the date takes the mail form, or has no text in a year without a place there.
-/

namespace CommitHeader.Calendar

/-- A piece of a pattern. -/
inductive Piece
  | literal (c : Char) (hc : c ≠ '%')
  | specifier (spelling : List Char) (text : LocalTime → List Char)
      (h : Wording.Says spelling text)
  | lenientOffset

namespace Piece

/-- How a piece is spelled. -/
def source : Piece → List Char
  | .literal c _ => [c]
  | .specifier spelling _ _ => '%' :: spelling
  | .lenientOffset => ['%', '#', 'z']

/-- The text of a piece at a time: a literal is itself, and a lenient offset has none. -/
def text (t : LocalTime) : Piece → List Char
  | .literal c _ => [c]
  | .specifier _ text _ => text t
  | .lenientOffset => []

end Piece

/-- No piece begins with a percent sign and this text. -/
def OpensNone (cs : List Char) : Prop :=
  ∀ piece : Piece, ¬ piece.source <+: '%' :: cs

theorem isSpecifier_lenientOffset : Item.IsSpecifier ['#', 'z'] [.lenientOffset] :=
  .other (by decide)

/-- A lenient offset says nothing. -/
theorem Wording.Says.spelling_ne {spelling : List Char} {text : LocalTime → List Char}
    (h : Says spelling text) : spelling ≠ ['#', 'z'] := by
  rintro rfl
  obtain ⟨items, hspecifier, hwrite⟩ := h.exists_items
  have hread := hspecifier.read?_append []
  rw [isSpecifier_lenientOffset.read?_append []] at hread
  cases hread
  cases hwrite ((⟨0, 0⟩ : Instant).atOffset 0)

/-- A piece is told by how it is spelled. -/
theorem Piece.source_injective {piece other : Piece} (h : piece.source = other.source) :
    piece = other := by
  cases piece with
  | literal c hc =>
      cases other with
      | literal d hd =>
          cases h
          rfl
      | specifier spelling text htext => exact absurd (List.cons.inj h).1 hc
      | lenientOffset => cases h
  | specifier spelling text htext =>
      cases other with
      | literal d hd => exact absurd (List.cons.inj h).1.symm hd
      | specifier spelling' text' htext' =>
          obtain rfl := (List.cons.inj h).2
          obtain rfl := htext.unique htext'
          rfl
      | lenientOffset => exact absurd (List.cons.inj h).2 htext.spelling_ne
  | lenientOffset =>
      cases other with
      | literal d hd => cases h
      | specifier spelling text htext =>
          exact absurd (List.cons.inj h).2.symm htext.spelling_ne
      | lenientOffset => rfl

theorem exists_piece {spelling : List Char} {items : List Item}
    (h : Item.IsSpecifier spelling items) : ∃ piece : Piece, piece.source = '%' :: spelling := by
  by_cases hlenient : spelling = ['#', 'z']
  · exact ⟨.lenientOffset, by rw [hlenient]; rfl⟩
  · obtain ⟨text, htext⟩ := Wording.exists_text h hlenient
    exact ⟨.specifier spelling text htext, rfl⟩

theorem read?_eq_none_iff {cs : List Char} : Item.read? cs = none ↔ OpensNone cs := by
  constructor
  · intro h piece hpiece
    have hnot {spelling : List Char} {items : List Item}
        (hspecifier : Item.IsSpecifier spelling items) : ¬ '%' :: spelling <+: '%' :: cs := by
      intro hprefix
      obtain ⟨rest, rfl⟩ := (List.cons_prefix_cons.mp hprefix).2
      rw [hspecifier.read?_append] at h
      cases h
    cases piece with
    | literal c hc => exact hc (List.cons_prefix_cons.mp hpiece).1
    | specifier spelling text htext =>
        obtain ⟨items, hspecifier, -⟩ := htext.exists_items
        exact hnot hspecifier hpiece
    | lenientOffset => exact hnot isSpecifier_lenientOffset hpiece
  · intro h
    rw [Option.eq_none_iff_forall_ne_some]
    rintro ⟨items, rest⟩ hread
    obtain ⟨spelling, hspecifier, rfl⟩ := Item.read?_eq_some_iff.mp hread
    obtain ⟨piece, hpiece⟩ := exists_piece hspecifier
    refine h piece ⟨rest, ?_⟩
    rw [hpiece, List.cons_append]

namespace Pattern

/-! ## Reading pieces -/

theorem items_percent_of_read? {cs rest : List Char} {found : List Item}
    (h : Item.read? cs = some (found, rest)) : items ('%' :: cs) = found ++ items rest := by
  rw [items, if_pos rfl]
  split
  · rename_i found' rest' hread
    rw [h] at hread
    cases hread
    rfl
  · rename_i hread
    rw [h] at hread
    cases hread

theorem items_percent_of_opensNone {cs : List Char} (h : OpensNone cs) :
    items ('%' :: cs) = [.unknown] := by
  rw [items, if_pos rfl]
  split
  · rename_i found rest hread
    rw [read?_eq_none_iff.mpr h] at hread
    cases hread
  · rfl

theorem items_literal {c : Char} (hc : c ≠ '%') : items [c] = [.literal c] := by
  rw [items, if_neg hc, items]

theorem items_specifier {spelling : List Char} {found : List Item}
    (h : Item.IsSpecifier spelling found) : items ('%' :: spelling) = found := by
  have hread := h.read?_append []
  rw [List.append_nil] at hread
  rw [items_percent_of_read? hread, items, List.append_nil]

theorem items_specifier_append {spelling : List Char} {found : List Item}
    (h : Item.IsSpecifier spelling found) (rest : List Char) :
    items ('%' :: spelling ++ rest) = items ('%' :: spelling) ++ items rest := by
  rw [List.cons_append, items_percent_of_read? (h.read?_append rest), items_specifier h]

theorem items_source_append (piece : Piece) (rest : List Char) :
    items (piece.source ++ rest) = items piece.source ++ items rest := by
  cases piece with
  | literal c hc =>
      rw [Piece.source, items_literal hc, List.singleton_append, items, if_neg hc]
      rfl
  | specifier spelling text h =>
      obtain ⟨found, hspecifier, -⟩ := h.exists_items
      exact items_specifier_append hspecifier rest
  | lenientOffset => exact items_specifier_append isSpecifier_lenientOffset rest

theorem unknown_not_mem_source (piece : Piece) : .unknown ∉ items piece.source := by
  cases piece with
  | literal c hc => simp [Piece.source, items_literal hc]
  | specifier spelling text h =>
      obtain ⟨found, hspecifier, -⟩ := h.exists_items
      rw [Piece.source, items_specifier hspecifier]
      exact hspecifier.unknown_not_mem
  | lenientOffset =>
      rw [Piece.source, items_specifier isSpecifier_lenientOffset]
      exact isSpecifier_lenientOffset.unknown_not_mem

theorem source_eq_of_lenientOffset_mem {piece : Piece} (h : .lenientOffset ∈ items piece.source) :
    piece.source = ['%', '#', 'z'] := by
  cases piece with
  | literal c hc => simp [Piece.source, items_literal hc] at h
  | specifier spelling text htext =>
      obtain ⟨found, hspecifier, -⟩ := htext.exists_items
      rw [Piece.source, items_specifier hspecifier] at h
      rw [Piece.source, hspecifier.lenientOffset_mem_iff.mp h]
  | lenientOffset => rfl

/-- Pieces at the front of a pattern are read one after the other. -/
theorem items_flatMap_append (pieces : List Piece) (rest : List Char) :
    items (pieces.flatMap Piece.source ++ rest) =
      pieces.flatMap (fun piece => items piece.source) ++ items rest := by
  induction pieces with
  | nil => rfl
  | cons piece pieces ih =>
      rw [List.flatMap_cons, List.flatMap_cons, List.append_assoc, List.append_assoc,
        items_source_append, ih]

theorem items_flatMap (pieces : List Piece) :
    items (pieces.flatMap Piece.source) = pieces.flatMap fun piece => items piece.source := by
  have hitems := items_flatMap_append pieces []
  rw [List.append_nil] at hitems
  rw [hitems, items, List.append_nil]

/-- Every pattern is pieces, to its end or to a percent sign that opens nothing. -/
theorem exists_pieces (cs : List Char) :
    ∃ pieces : List Piece, cs = pieces.flatMap Piece.source ∨
      ∃ rest, OpensNone rest ∧ cs = pieces.flatMap Piece.source ++ '%' :: rest := by
  induction cs using items.induct with
  | case1 => exact ⟨[], Or.inl rfl⟩
  | case2 rest found after hread hlt ih =>
      obtain ⟨spelling, hspecifier, rfl⟩ := Item.isSpecifier_of_read? hread
      obtain ⟨piece, hpiece⟩ := exists_piece hspecifier
      obtain ⟨pieces, hpieces | ⟨unread, hnone, hpieces⟩⟩ := ih
      · refine ⟨piece :: pieces, Or.inl ?_⟩
        rw [hpieces, List.flatMap_cons, hpiece, List.cons_append]
      · refine ⟨piece :: pieces, Or.inr ⟨unread, hnone, ?_⟩⟩
        rw [hpieces, List.flatMap_cons, hpiece, List.cons_append, List.cons_append,
          List.append_assoc]
  | case3 rest hread =>
      exact ⟨[], Or.inr ⟨rest, read?_eq_none_iff.mp hread, rfl⟩⟩
  | case4 c rest hc ih =>
      obtain ⟨pieces, hpieces | ⟨unread, hnone, hpieces⟩⟩ := ih
      · exact ⟨.literal c hc :: pieces, Or.inl (by rw [hpieces]; rfl)⟩
      · refine ⟨.literal c hc :: pieces, Or.inr ⟨unread, hnone, ?_⟩⟩
        rw [hpieces, List.flatMap_cons, List.append_assoc]
        rfl

theorem unknown_not_mem_flatMap (pieces : List Piece) :
    .unknown ∉ items (pieces.flatMap Piece.source) := by
  rw [items_flatMap, List.mem_flatMap]
  rintro ⟨piece, -, hunknown⟩
  exact unknown_not_mem_source piece hunknown

/-- A pattern has a lenient offset only where it says so. -/
theorem infix_of_lenientOffset_mem {cs : List Char} (h : .lenientOffset ∈ items cs) :
    ['%', '#', 'z'] <:+: cs := by
  have hspelled {pieces : List Piece}
      (hmem : .lenientOffset ∈ pieces.flatMap fun piece => items piece.source) :
      ['%', '#', 'z'] <:+: pieces.flatMap Piece.source := by
    obtain ⟨piece, hpiece, hlenient⟩ := List.mem_flatMap.mp hmem
    rw [← source_eq_of_lenientOffset_mem hlenient]
    exact List.infix_of_mem_flatten (List.mem_map_of_mem hpiece)
  obtain ⟨pieces, rfl | ⟨rest, hnone, rfl⟩⟩ := exists_pieces cs
  · rw [items_flatMap] at h
    exact hspelled h
  · rw [items_flatMap_append, items_percent_of_opensNone hnone] at h
    exact (hspelled (by simpa using h)).trans List.infix_append_left

/-! ## Writing pieces -/

/-- Every piece but a lenient offset writes its text. -/
theorem writeItems?_source {piece : Piece} (h : piece ≠ .lenientOffset) (t : LocalTime) :
    writeItems? t (items piece.source) = some (piece.text t) := by
  cases piece with
  | literal c hc =>
      rw [Piece.source, items_literal hc]
      rfl
  | specifier spelling text htext =>
      obtain ⟨found, hspecifier, hwrite⟩ := htext.exists_items
      rw [Piece.source, items_specifier hspecifier]
      exact hwrite t
  | lenientOffset => exact absurd rfl h

theorem writeItems?_append {t : LocalTime} {front back : List Item} {written following : List Char}
    (hfront : writeItems? t front = some written) (hback : writeItems? t back = some following) :
    writeItems? t (front ++ back) = some (written ++ following) := by
  induction front generalizing written with
  | nil =>
      cases hfront
      exact hback
  | cons item front ih =>
      simp only [List.cons_append, writeItems?, Option.bind_eq_bind, Option.bind_eq_some_iff]
        at hfront ⊢
      obtain ⟨first, hfirst, others, hothers, hwritten⟩ := hfront
      cases hwritten
      exact ⟨first, hfirst, others ++ following, ih hothers, by rw [List.append_assoc]⟩

theorem writeItems?_flatMap {t : LocalTime} {pieces : List Piece} (h : .lenientOffset ∉ pieces) :
    writeItems? t (items (pieces.flatMap Piece.source)) = some (pieces.flatMap (Piece.text t)) := by
  rw [items_flatMap]
  induction pieces with
  | nil => rfl
  | cons piece pieces ih =>
      rw [List.mem_cons, not_or] at h
      exact writeItems?_append (writeItems?_source (Ne.symm h.1) t) (ih h.2)

end Pattern

namespace DateStyle

/-- A date is in the mail form and nothing else, or missing where that has no place for the year. -/
structure TakesMailForm (style : DateStyle) (t : Timestamp) : Prop where
  absolute?_of_year :
    0 ≤ (t.instant.atOffset style.offset).date.year ∧
      (t.instant.atOffset style.offset).date.year ≤ 9999 →
        style.absolute? t = some (String.ofList (Wording.mail (t.instant.atOffset style.offset)))
  absolute?_eq_none :
    ¬ (0 ≤ (t.instant.atOffset style.offset).date.year ∧
      (t.instant.atOffset style.offset).date.year ≤ 9999) → style.absolute? t = none

theorem takesMailForm_of_items {style : DateStyle} (t : Timestamp)
    (h : .lenientOffset ∈ Pattern.items style.pattern.toList ∨
      .unknown ∈ Pattern.items style.pattern.toList) : style.TakesMailForm t := by
  have habsolute : style.absolute? t = MailDate.write? (t.instant.atOffset style.offset) := by
    have hwrite : Pattern.write? style.pattern (t.instant.atOffset style.offset) = none := by
      rw [Pattern.write?, Option.map_eq_none_iff]
      exact Pattern.writeItems?_eq_none_iff.mpr h
    simp only [absolute?, hwrite]
  refine ⟨?_, ?_⟩
  · intro hyear
    rw [habsolute, MailDate.write?_of_year hyear]
  · intro hyear
    rw [habsolute, MailDate.write?_eq_none_iff]
    exact hyear

/-- Every pattern is pieces, each told by how it is spelled, to its end or to a percent sign that
opens nothing. In the first case it is valid, and a date is the texts of the pieces at the time shown at the offset of the style, unless
one of them is a lenient offset. In the second case it is not valid. Behind a percent sign
that opens nothing and behind a lenient offset, wherever it stands, nothing is left of the texts
before: the date is the mail form, in the years from 0 to 9999, and is missing in any other year. -/
theorem absolute_date_by_pieces (style : DateStyle) (t : Timestamp) :
    (t.instant.atOffset style.offset).Shows t.instant style.offset ∧
    (∀ piece other : Piece, piece.source = other.source → piece = other) ∧
    (∃ pieces : List Piece, style.pattern.toList = pieces.flatMap Piece.source ∨
      ∃ rest, OpensNone rest ∧
        style.pattern.toList = pieces.flatMap Piece.source ++ '%' :: rest) ∧
    (∀ pieces : List Piece, style.pattern.toList = pieces.flatMap Piece.source →
      Pattern.isValid style.pattern = true ∧
        (.lenientOffset ∉ pieces → style.absolute? t = some (String.ofList
          (pieces.flatMap (Piece.text (t.instant.atOffset style.offset)))))) ∧
    (∀ (pieces : List Piece) (rest : List Char), OpensNone rest →
      style.pattern.toList = pieces.flatMap Piece.source ++ '%' :: rest →
        Pattern.isValid style.pattern = false ∧ style.TakesMailForm t) ∧
    ∀ (pieces : List Piece) (rest : List Char),
      style.pattern.toList = pieces.flatMap Piece.source ++ '%' :: '#' :: 'z' :: rest →
        style.TakesMailForm t := by
  refine ⟨Instant.shows_atOffset _ _, fun _ _ => Piece.source_injective,
    Pattern.exists_pieces _, ?_, ?_, ?_⟩
  · intro pieces hpattern
    refine ⟨?_, ?_⟩
    · rw [Pattern.isValid_iff, hpattern]
      exact Pattern.unknown_not_mem_flatMap pieces
    · intro hlenient
      have hwrite : Pattern.write? style.pattern (t.instant.atOffset style.offset) =
          some (String.ofList (pieces.flatMap (Piece.text (t.instant.atOffset style.offset)))) := by
        rw [Pattern.write?, hpattern, Pattern.writeItems?_flatMap hlenient]
        rfl
      simp only [absolute?, hwrite]
  · intro pieces rest hnone hpattern
    have hunknown : .unknown ∈ Pattern.items style.pattern.toList := by
      rw [hpattern, Pattern.items_flatMap_append, Pattern.items_percent_of_opensNone hnone]
      exact List.mem_append_right _ List.mem_cons_self
    refine ⟨?_, takesMailForm_of_items t (Or.inr hunknown)⟩
    rw [Bool.eq_false_iff, ne_eq, Pattern.isValid_iff, not_not]
    exact hunknown
  · intro pieces rest hpattern
    have hread : Item.read? ('#' :: 'z' :: rest) = some ([.lenientOffset], rest) :=
      isSpecifier_lenientOffset.read?_append rest
    have hlenient : .lenientOffset ∈ Pattern.items style.pattern.toList := by
      rw [hpattern, Pattern.items_flatMap_append, Pattern.items_percent_of_read? hread]
      exact List.mem_append_right _ List.mem_cons_self
    exact takesMailForm_of_items t (Or.inl hlenient)

theorem absolute_date_by_pieces_sample :
    Wording.Says ['-', 'H'] (fun t => Wording.two .none t.hour) ∧
    (⟨"%-H: %-H", 3600⟩ : DateStyle).absolute? ⟨⟨0, 0⟩, 0⟩ = some "1: 1" ∧
    Pattern.isValid "%-H: %-Q" = false ∧
    (⟨"%-H: %-Q", 3600⟩ : DateStyle).absolute? ⟨⟨0, 0⟩, 0⟩ =
      some "Thu, 1 Jan 1970 01:00:00 +0100" ∧
    (⟨"%-H: %#z", -3600⟩ : DateStyle).absolute? ⟨⟨253402300800, 0⟩, 0⟩ =
      some "Fri, 31 Dec 9999 23:00:00 -0100" ∧
    (⟨"%-H: %#z", 0⟩ : DateStyle).absolute? ⟨⟨253402300800, 0⟩, 0⟩ = none := by
  have htext : Wording.Says ['-', 'H'] (fun t => Wording.two .none t.hour) :=
    .modified (by decide)
      (by simp [Wording.numbers] : ('H', .zeros, fun fill t => Wording.two fill t.hour) ∈ _)
  let hour : Piece := .specifier _ _ htext
  let colon : Piece := .literal ':' (by decide)
  let space : Piece := .literal ' ' (by decide)
  have hnone : OpensNone ['-', 'Q'] := read?_eq_none_iff.mp (by decide)
  obtain ⟨-, -, -, hwritten, -, -⟩ := absolute_date_by_pieces ⟨"%-H: %-H", 3600⟩ ⟨⟨0, 0⟩, 0⟩
  obtain ⟨-, -, -, -, hunknown, -⟩ := absolute_date_by_pieces ⟨"%-H: %-Q", 3600⟩ ⟨⟨0, 0⟩, 0⟩
  obtain ⟨hvalid, hmail⟩ := hunknown [hour, colon, space] ['-', 'Q'] hnone rfl
  obtain ⟨-, -, -, -, -, hlast⟩ :=
    absolute_date_by_pieces ⟨"%-H: %#z", -3600⟩ ⟨⟨253402300800, 0⟩, 0⟩
  obtain ⟨-, -, -, -, -, hfar⟩ := absolute_date_by_pieces ⟨"%-H: %#z", 0⟩ ⟨⟨253402300800, 0⟩, 0⟩
  refine ⟨htext, ?_, hvalid, ?_, ?_, ?_⟩
  · rw [(hwritten [hour, colon, space, hour] rfl).2 (by simp [hour, colon, space])]
    simp only [hour, colon, space, List.flatMap_cons, List.flatMap_nil, Piece.text]
    decide +kernel
  · rw [hmail.absolute?_of_year (by decide +kernel)]
    decide +kernel
  · rw [(hlast [hour, colon, space] [] rfl).absolute?_of_year (by decide +kernel)]
    decide +kernel
  · exact (hfar [hour, colon, space] [] rfl).absolute?_eq_none (by decide +kernel)

end DateStyle

end CommitHeader.Calendar
