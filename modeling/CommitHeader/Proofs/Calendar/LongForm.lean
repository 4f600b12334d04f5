import CommitHeader.Calendar.DateText
import CommitHeader.Proofs.Calendar.Shown
import CommitHeader.Proofs.Text.Cut
import CommitHeader.Proofs.Text.Decimal
import Mathlib

/-!
# The long form of dates

The pattern of dates that nothing else configures writes a long date and a long time. Its parts end
at the first comma, blank or colon behind them, so a text in this form tells year, month, day, the
hour on a clock of twelve, minute, second and the half of the day, and with these the second at which
it was written, unless that is a leap second.
-/

namespace CommitHeader.Calendar

open Text.Decimal

/-! ## Parts of the form -/

/-- The sign of a year; there is none where four digits hold the year. -/
def yearSign (year : Int) : List Char :=
  if 0 ≤ year ∧ year ≤ 9999 then [] else sign true year

theorem writeYear_eq (year : Int) :
    NumberField.writeYear .zeros year = yearSign year ++ zeroFilled 4 year.natAbs := by
  unfold NumberField.writeYear yearSign
  split_ifs with hplaces
  · rw [write_zeros, sign_false_of_nonneg hplaces.1]
    rfl
  · rw [write_zeros, length_sign_true]

theorem isDigit_of_mem_yearSign {year : Int} {c : Char} (h : c ∈ yearSign year) :
    c.isDigit = false := by
  unfold yearSign at h
  split_ifs at h
  · cases h
  · exact isDigit_of_mem_sign h

theorem blank_not_mem_writeYear (year : Int) : ' ' ∉ NumberField.writeYear .zeros year := by
  rw [writeYear_eq, List.mem_append, not_or]
  refine ⟨?_, not_mem_zeroFilled (by decide)⟩
  unfold yearSign sign
  split_ifs <;> decide

theorem writeYear_injective {a b : Int}
    (h : NumberField.writeYear .zeros a = NumberField.writeYear .zeros b) : a = b := by
  rw [writeYear_eq, writeYear_eq] at h
  obtain ⟨hsign, hsize⟩ := append_zeroFilled_inj (fun _ => isDigit_of_mem_yearSign)
    (fun _ => isDigit_of_mem_yearSign) h
  unfold yearSign sign at hsign
  split_ifs at hsign <;> simp at hsign <;> omega

theorem comma_not_mem_weekdayName : ∀ weekday < 7, ',' ∉ weekdayName weekday := by
  decide +kernel

theorem blank_not_mem_monthName : ∀ month ≤ 12, ' ' ∉ monthName month := by
  decide +kernel

theorem monthName_injective :
    ∀ a ≤ 12, ∀ b ≤ 12, 1 ≤ a → 1 ≤ b → monthName a = monthName b → a = b := by
  decide +kernel

namespace LocalTime

/-- The hour is the hour on a clock of twelve, where twelve is none, in the half of the day. -/
theorem hour_eq {t : LocalTime} (h : t.hour < 24) :
    t.hour = (if t.isAfternoon then 12 else 0) + t.hour12 % 12 := by
  unfold isAfternoon hour12
  generalize t.hour = hour at h
  revert hour
  decide

/-- The half of the day, in two letters. -/
def meridiem (t : LocalTime) : List Char :=
  if t.isAfternoon then ['P', 'M'] else ['A', 'M']

/-- A time in the long form. -/
def longForm (t : LocalTime) : List Char :=
  weekdayName t.date.weekday ++ ',' :: ' ' :: (monthName t.date.month ++
    ' ' :: (digits t.date.day ++ ',' :: ' ' :: (NumberField.writeYear .zeros t.date.year ++
      ' ' :: (digits t.hour12 ++ ':' :: (zeroFilled 2 t.minute ++
        ':' :: (zeroFilled 2 t.second ++ ' ' :: t.meridiem))))))

theorem hour12_lt (t : LocalTime) : t.hour12 < 100 := by
  unfold hour12
  split_ifs <;> omega

theorem meridiem_injective {s t : LocalTime} (h : s.meridiem = t.meridiem) :
    s.isAfternoon = t.isAfternoon := by
  unfold meridiem at h
  cases hs : s.isAfternoon <;> cases ht : t.isAfternoon <;> simp [hs, ht] at h ⊢

variable {s t : LocalTime} {a b : Instant} {offset : Int}

/-- The parts of two times that are shown, read back from their long forms. -/
theorem longForm_injective (hs : s.Shows a offset) (ht : t.Shows b offset)
    (h : s.longForm = t.longForm) :
    (s.date.year = t.date.year ∧ s.date.month = t.date.month ∧ s.date.day = t.date.day) ∧
      s.hour = t.hour ∧ s.minute = t.minute ∧ s.second = t.second := by
  obtain ⟨-, h⟩ := (Text.append_mark_inj (comma_not_mem_weekdayName _ hs.date.weekday_lt)
    (comma_not_mem_weekdayName _ ht.date.weekday_lt)).mp h
  obtain ⟨hmonth, h⟩ := (Text.append_mark_inj (blank_not_mem_monthName _ hs.date.month.2)
    (blank_not_mem_monthName _ ht.date.month.2)).mp (List.cons.inj h).2
  obtain ⟨hday, h⟩ := (Text.append_mark_inj (not_mem_digits (by decide))
    (not_mem_digits (by decide))).mp h
  obtain ⟨hyear, h⟩ := (Text.append_mark_inj (blank_not_mem_writeYear _)
    (blank_not_mem_writeYear _)).mp (List.cons.inj h).2
  obtain ⟨hhour, h⟩ := (Text.append_mark_inj (not_mem_digits (by decide))
    (not_mem_digits (by decide))).mp h
  obtain ⟨hminute, h⟩ := (Text.append_mark_inj (not_mem_zeroFilled (by decide))
    (not_mem_zeroFilled (by decide))).mp h
  obtain ⟨hsecond, hhalf⟩ := (Text.append_mark_inj (not_mem_zeroFilled (by decide))
    (not_mem_zeroFilled (by decide))).mp h
  refine ⟨⟨writeYear_injective hyear, ?_, digits_injective hday⟩, ?_,
    zeroFilled_injective hminute, zeroFilled_injective hsecond⟩
  · exact monthName_injective _ hs.date.month.2 _ ht.date.month.2 hs.date.month.1 ht.date.month.1
      hmonth
  · rw [hour_eq hs.hour, hour_eq ht.hour, meridiem_injective hhalf, digits_injective hhour]

theorem longForm_congr (hdate : s.date = t.date) (hhour : s.hour = t.hour)
    (hminute : s.minute = t.minute) (hsecond : s.second = t.second) : s.longForm = t.longForm := by
  unfold longForm meridiem isAfternoon hour12
  rw [hdate, hhour, hminute, hsecond]

end LocalTime

/-! ## The form at an offset -/

theorem Instant.longForm_atOffset_eq_iff {s t : Instant} (hs : s.inLeapSecond = false)
    (ht : t.inLeapSecond = false) {offset : Int} :
    (s.atOffset offset).longForm = (t.atOffset offset).longForm ↔ s.seconds = t.seconds := by
  have hshown := shows_atOffset s offset
  have hother := shows_atOffset t offset
  constructor
  · intro h
    obtain ⟨⟨hyear, hmonth, hday⟩, hhour, hminute, hsecond⟩ :=
      LocalTime.longForm_injective hshown hother h
    have hdate : (s.atOffset offset).date = (t.atOffset offset).date :=
      congrArg CivilDate.ofNumber (CivilDate.ofNumber_injective hyear hmonth hday)
    rw [hshown.seconds_eq hs, hother.seconds_eq ht, hdate, hhour, hminute, hsecond]
  · intro h
    have hdate : (s.atOffset offset).date = (t.atOffset offset).date := by
      change CivilDate.ofNumber _ = CivilDate.ofNumber _
      rw [h]
    have hseconds := hshown.seconds_eq hs
    rw [h, hother.seconds_eq ht, hdate] at hseconds
    have hminute := hshown.minute
    have hminute' := hother.minute
    have hsecond := hshown.second
    have hsecond' := hother.second
    rw [hs, if_neg Bool.false_ne_true] at hsecond
    rw [ht, if_neg Bool.false_ne_true] at hsecond'
    exact LocalTime.longForm_congr hdate (by omega) (by omega) (by omega)

namespace DateStyle

theorem items_defaultPattern : Pattern.items defaultPattern.toList =
    [.weekday, .literal ',', .literal ' ', .monthName, .literal ' ', .number .day .none,
      .literal ',', .literal ' ', .number .year .zeros, .literal ' ', .number .hour12 .none,
      .literal ':', .number .minute .zeros, .literal ':', .number .second .zeros, .literal ' ',
      .meridiem] := by
  decide +kernel

theorem absolute?_defaultPattern (offset : Int) (t : Timestamp) :
    (⟨defaultPattern, offset⟩ : DateStyle).absolute? t =
      some (String.ofList (t.instant.atOffset offset).longForm) := by
  have hshown := t.instant.shows_atOffset offset
  have hday : (t.instant.atOffset offset).date.day < 100 :=
    Nat.lt_of_le_of_lt hshown.date.day_le (by decide)
  have hminute : (t.instant.atOffset offset).minute < 100 :=
    Nat.lt_trans hshown.minute (by decide)
  have hsecond : (t.instant.atOffset offset).second < 100 :=
    Nat.lt_of_le_of_lt hshown.second_le (by decide)
  have hwrite : Pattern.write? defaultPattern (t.instant.atOffset offset) =
      some (String.ofList (t.instant.atOffset offset).longForm) := by
    rw [Pattern.write?, items_defaultPattern]
    simp [Pattern.writeItems?, Item.write?, NumberField.write, LocalTime.longForm,
      LocalTime.meridiem, twoPlaces_eq_digits _ hday,
      twoPlaces_eq_digits _ (LocalTime.hour12_lt _), twoPlaces_eq_zeroFilled _ hminute,
      twoPlaces_eq_zeroFilled _ hsecond]
  rw [absolute?]
  simp only [hwrite]

/-- A date in the form that nothing else configures tells its second. At every offset there is a
text, and two points in time outside leap seconds have the same one exactly if they lie in the same
second, whatever their years and whatever the offsets they were recorded at. -/
theorem default_date_tells_second (offset : Int) (s t : Timestamp) :
    ∃ shown other, (⟨defaultPattern, offset⟩ : DateStyle).absolute? s = some shown ∧
      (⟨defaultPattern, offset⟩ : DateStyle).absolute? t = some other ∧
      (s.instant.inLeapSecond = false → t.instant.inLeapSecond = false →
        (shown = other ↔ s.instant.seconds = t.instant.seconds)) := by
  refine ⟨_, _, absolute?_defaultPattern offset s, absolute?_defaultPattern offset t, ?_⟩
  intro hs ht
  rw [String.ofList_inj]
  exact Instant.longForm_atOffset_eq_iff hs ht

/-- The last second of the year -1, an hour east of Greenwich, from its start to its end. -/
theorem default_date_tells_second_sample :
    let start : Timestamp := ⟨⟨-62167222801, 0⟩, 0⟩
    let stop : Timestamp := ⟨⟨-62167222801, 999999999⟩, -7200⟩
    start.instant.inLeapSecond = false ∧ stop.instant.inLeapSecond = false ∧
      (⟨defaultPattern, 3600⟩ : DateStyle).absolute? start =
        some "Friday, December 31, -0001 11:59:59 PM" ∧
      (⟨defaultPattern, 3600⟩ : DateStyle).absolute? stop =
        some "Friday, December 31, -0001 11:59:59 PM" := by
  have htext : (⟨defaultPattern, 3600⟩ : DateStyle).absolute? ⟨⟨-62167222801, 0⟩, 0⟩ =
      some "Friday, December 31, -0001 11:59:59 PM" := by
    decide +kernel
  obtain ⟨shown, other, hshown, hother, hiff⟩ := default_date_tells_second 3600
    ⟨⟨-62167222801, 0⟩, 0⟩ ⟨⟨-62167222801, 999999999⟩, -7200⟩
  obtain rfl := (hiff (by decide) (by decide)).mpr rfl
  exact ⟨by decide, by decide, htext, hother.trans (hshown.symm.trans htext)⟩

/-- A leap second is shown as the second that it is. -/
example :
    ({} : DateStyle).absolute? ⟨⟨1435708799, 1500000000⟩, 0⟩ =
      some "Tuesday, June 30, 2015 11:59:60 PM" := by
  decide +kernel

end DateStyle

end CommitHeader.Calendar
