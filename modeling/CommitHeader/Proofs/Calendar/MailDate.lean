import CommitHeader.Calendar.MailDate
import CommitHeader.Proofs.Calendar.Wording

/-!
# The mail form in words

In the years for which it has a place the mail form says what weekday, day, month, year, time and
offset say.
-/

namespace CommitHeader.Calendar

open Text.Decimal in
/-- A year of four places has no sign. -/
theorem writeYear_eq_zeroFilled {year : Int} (h : 0 ≤ year ∧ year ≤ 9999) :
    NumberField.writeYear .zeros year = zeroFilled 4 year.toNat := by
  have hsize : year.natAbs = year.toNat := by omega
  rw [NumberField.writeYear, if_pos h, write_zeros, sign_false_of_nonneg h.1, hsize]
  rfl

namespace MailDate

/-- The mail form has four places for the year. -/
theorem write?_eq_none_iff {t : LocalTime} :
    write? t = none ↔ ¬ (0 ≤ t.date.year ∧ t.date.year ≤ 9999) := by
  unfold write?
  dsimp only
  split_ifs with hyear <;> simp [hyear]

theorem write?_of_year {t : LocalTime} (hyear : 0 ≤ t.date.year ∧ t.date.year ≤ 9999) :
    write? t = some (String.ofList (Wording.mail t)) := by
  rw [write?, if_pos hyear, ← writeYear_eq_zeroFilled hyear]
  simp only [Wording.offsetForm_write, Wording.twoPlaces_eq_two, Wording.writeYear_eq_year]
  simp [Wording.mail, Wording.template, Wording.letter, Wording.numbers, Wording.words,
    Wording.numeral_none, Wording.weekday, Wording.month, abbreviated, weekdayName, monthName,
    weekdayNames, monthNames, List.lookup]

end MailDate

end CommitHeader.Calendar
