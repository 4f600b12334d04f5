import CommitHeader.Calendar.DateText
import CommitHeader.Proofs.Calendar.Specifier

/-!
# Which patterns can be written

A pattern has a text exactly if none of its items is unknown or a lenient offset. A valid pattern
has no unknown item, but it may have a lenient offset, and then it has no text at any time.
-/

namespace CommitHeader.Calendar

namespace Item

/-- Only two items have no text, and they have none at any time. -/
theorem write?_eq_none_iff {t : LocalTime} {item : Item} :
    item.write? t = none ↔ item = .lenientOffset ∨ item = .unknown := by
  cases item <;> simp [write?]

end Item

namespace Pattern

theorem writeItems?_cons_eq_none_iff {t : LocalTime} {item : Item} {items : List Item} :
    writeItems? t (item :: items) = none ↔ item.write? t = none ∨ writeItems? t items = none := by
  rw [writeItems?]
  cases item.write? t <;> cases writeItems? t items <;> simp

theorem writeItems?_eq_none_iff {t : LocalTime} {items : List Item} :
    writeItems? t items = none ↔ .lenientOffset ∈ items ∨ .unknown ∈ items := by
  induction items with
  | nil => simp [writeItems?]
  | cons item items ih =>
      rw [writeItems?_cons_eq_none_iff, Item.write?_eq_none_iff, ih, List.mem_cons, List.mem_cons,
        eq_comm (a := item), eq_comm (a := item)]
      exact or_or_or_comm

theorem isValid_iff {pattern : String} :
    isValid pattern = true ↔ .unknown ∉ items pattern.toList := by
  simp [isValid, List.forall_mem_ne']

/-- Only its lenient offsets keep a valid pattern from having a text. -/
theorem write?_eq_none_iff {pattern : String} (hvalid : isValid pattern = true) {t : LocalTime} :
    write? pattern t = none ↔ .lenientOffset ∈ items pattern.toList := by
  rw [write?, Option.map_eq_none_iff, writeItems?_eq_none_iff]
  simp [isValid_iff.mp hvalid]

end Pattern

end CommitHeader.Calendar
