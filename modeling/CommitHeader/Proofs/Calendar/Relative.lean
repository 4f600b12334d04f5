import CommitHeader.Calendar.DateText
import CommitHeader.Proofs.Text.Cut
import Mathlib

/-!
# Distances in words

A distance is told as a number of whole units. The unit is the longest one that the distance holds,
and a second if it holds none. Units do not divide each other, and still a longer distance is never
told as a shorter span: where the unit changes, what is told is at least one of the new unit.

Differences of points in time count a leap second only if one of the two lies in it. At the end of a
day such a second and the one after it are the same to a difference.
-/

namespace CommitHeader.Calendar

/-! ## Units -/

namespace SpanUnit

/-- The length of a unit in nanoseconds. -/
def nanoseconds : SpanUnit → Nat
  | second => 1000000000
  | minute => 60 * 1000000000
  | hour => 60 * 60 * 1000000000
  | day => 24 * 60 * 60 * 1000000000
  | week => 7 * 24 * 60 * 60 * 1000000000
  | month => 30 * 24 * 60 * 60 * 1000000000
  | year => 365 * 24 * 60 * 60 * 1000000000

/-- The most that is told of a unit; of years there may be any number. -/
def most? : SpanUnit → Option Nat
  | second => some 59
  | minute => some 59
  | hour => some 23
  | day => some 6
  | week => some 4
  | month => some 12
  | year => none

theorem nanoseconds_eq (unit : SpanUnit) : unit.nanoseconds = 1000000000 * unit.seconds := by
  cases unit <;> rfl

theorem nanoseconds_second_le (unit : SpanUnit) : second.nanoseconds ≤ unit.nanoseconds := by
  cases unit <;> decide

theorem nanoseconds_pos (unit : SpanUnit) : 0 < unit.nanoseconds :=
  Nat.lt_of_lt_of_le (by decide) unit.nanoseconds_second_le

theorem seconds_pos (unit : SpanUnit) : 0 < unit.seconds := by
  cases unit <;> decide

theorem nanoseconds_injective {a b : SpanUnit} (h : a.nanoseconds = b.nanoseconds) : a = b := by
  revert h
  cases a <;> cases b <;> decide

theorem name_injective {a b : SpanUnit} (h : a.name = b.name) : a = b := by
  revert h
  cases a <;> cases b <;> decide

/-- The unit in which whole seconds are told, and the seconds that are told in it. -/
theorem ofSeconds_cases (n : Nat) :
    (ofSeconds n = second ∧ n < 60) ∨
    (ofSeconds n = minute ∧ 60 ≤ n ∧ n < 3600) ∨
    (ofSeconds n = hour ∧ 3600 ≤ n ∧ n < 86400) ∨
    (ofSeconds n = day ∧ 86400 ≤ n ∧ n < 7 * 86400) ∨
    (ofSeconds n = week ∧ 7 * 86400 ≤ n ∧ n < 30 * 86400) ∨
    (ofSeconds n = month ∧ 30 * 86400 ≤ n ∧ n < 365 * 86400) ∨
    (ofSeconds n = year ∧ 365 * 86400 ≤ n) := by
  unfold ofSeconds
  simp only [seconds]
  split_ifs <;> grind

theorem seconds_ofSeconds_le {n : Nat} (h : ofSeconds n ≠ second) :
    (ofSeconds n).seconds ≤ n := by
  rcases ofSeconds_cases n with hunit | hunit | hunit | hunit | hunit | hunit | hunit
  · exact absurd hunit.1 h
  all_goals
    rw [hunit.1, seconds]
    omega

theorem le_seconds_ofSeconds {n : Nat} {unit : SpanUnit} (h : unit.seconds ≤ n) :
    unit.seconds ≤ (ofSeconds n).seconds := by
  rcases ofSeconds_cases n with hunit | hunit | hunit | hunit | hunit | hunit | hunit
  all_goals
    rw [hunit.1]
    cases unit <;> simp only [seconds] at h ⊢ <;> omega

theorem div_seconds_ofSeconds_le {n most : Nat} (h : most ∈ (ofSeconds n).most?) :
    n / (ofSeconds n).seconds ≤ most := by
  rcases ofSeconds_cases n with hunit | hunit | hunit | hunit | hunit | hunit | hunit
  all_goals
    rw [hunit.1] at h ⊢
    cases h <;> rw [seconds] <;> omega

end SpanUnit

/-! ## Spans -/

namespace Span

/-- A span tells a distance in nanoseconds: it is told in whole units, no unit is longer and still
within the distance, and no shorter span would do in this unit. -/
structure Tells (span : Span) (distance : Nat) : Prop where
  le : span.count * span.unit.nanoseconds ≤ distance
  lt : distance < (span.count + 1) * span.unit.nanoseconds
  one_le : span.unit ≠ .second → 1 ≤ span.count
  le_most : ∀ most ∈ span.unit.most?, span.count ≤ most
  longest : ∀ unit : SpanUnit, unit.nanoseconds ≤ distance →
    unit.nanoseconds ≤ span.unit.nanoseconds

/-- The length of a span in nanoseconds. -/
def nanoseconds (span : Span) : Nat :=
  span.count * span.unit.nanoseconds

theorem ofSeconds_tells (distance : Nat) : (ofSeconds (distance / 1000000000)).Tells distance := by
  have hcount : (ofSeconds (distance / 1000000000)).count =
      distance / (ofSeconds (distance / 1000000000)).unit.nanoseconds := by
    rw [SpanUnit.nanoseconds_eq, ← Nat.div_div_eq_div_mul]
    rfl
  refine ⟨?_, ?_, ?_, ?_, ?_⟩
  · rw [hcount]
    exact Nat.div_mul_le_self _ _
  · rw [hcount, Nat.mul_comm]
    exact Nat.lt_mul_div_succ _ (SpanUnit.nanoseconds_pos _)
  · intro hunit
    have hle := SpanUnit.seconds_ofSeconds_le hunit
    exact Nat.div_pos hle (SpanUnit.seconds_pos _)
  · exact fun most => SpanUnit.div_seconds_ofSeconds_le
  · intro unit hunit
    rw [SpanUnit.nanoseconds_eq] at hunit
    have hle : unit.seconds ≤ distance / 1000000000 := by omega
    have hunits := SpanUnit.le_seconds_ofSeconds hle
    rw [SpanUnit.nanoseconds_eq, SpanUnit.nanoseconds_eq]
    exact Nat.mul_le_mul_left _ hunits

namespace Tells

variable {a b : Span} {d e : Nat}

theorem count_eq (h : a.Tells d) : a.count = d / a.unit.nanoseconds :=
  (Nat.div_eq_of_lt_le h.le h.lt).symm

/-- A longer distance is told in no shorter unit. -/
theorem unit_le (ha : a.Tells d) (hb : b.Tells e) (h : d ≤ e) :
    a.unit.nanoseconds ≤ b.unit.nanoseconds := by
  by_cases hunit : a.unit = .second
  · rw [hunit]
    exact b.unit.nanoseconds_second_le
  · apply hb.longest
    calc a.unit.nanoseconds = 1 * a.unit.nanoseconds := (Nat.one_mul _).symm
      _ ≤ a.count * a.unit.nanoseconds := Nat.mul_le_mul_right _ (ha.one_le hunit)
      _ ≤ d := ha.le
      _ ≤ e := h

theorem unique (ha : a.Tells d) (hb : b.Tells d) : a = b := by
  have hunit : a.unit = b.unit := SpanUnit.nanoseconds_injective
    (Nat.le_antisymm (ha.unit_le hb (Nat.le_refl d)) (hb.unit_le ha (Nat.le_refl d)))
  have hcount : a.count = b.count := by rw [ha.count_eq, hb.count_eq, hunit]
  cases a
  cases b
  cases hunit
  cases hcount
  rfl

/-- A longer distance is told as no shorter span. -/
theorem nanoseconds_le (ha : a.Tells d) (hb : b.Tells e) (h : d ≤ e) :
    a.nanoseconds ≤ b.nanoseconds := by
  rcases Nat.eq_or_lt_of_le (ha.unit_le hb h) with hunit | hunit
  · rw [nanoseconds, nanoseconds, ha.count_eq, hb.count_eq, hunit]
    exact Nat.mul_le_mul_right _ (Nat.div_le_div_right h)
  · -- The unit changes on the way from `d` to `e`, and one of the new unit is more than `d`.
    have hlt : d < b.unit.nanoseconds := by
      by_contra hle
      exact absurd (ha.longest b.unit (Nat.not_lt.mp hle)) (Nat.not_le.mpr hunit)
    have hone : 1 ≤ b.count := by
      apply hb.one_le
      intro hsecond
      rw [hsecond] at hunit
      exact absurd a.unit.nanoseconds_second_le (Nat.not_le.mpr hunit)
    calc a.nanoseconds ≤ d := ha.le
      _ ≤ 1 * b.unit.nanoseconds := by omega
      _ ≤ b.nanoseconds := Nat.mul_le_mul_right _ hone

end Tells

/-! ## Wording -/

theorem text_eq (span : Span) :
    span.text = toString span.count ++ " " ++ span.unit.name ++
      if span.count = 1 then "" else "s" := rfl

theorem digit_of_mem_count {span : Span} {c : Char} (h : c ∈ (toString span.count).toList) :
    c.isDigit := by
  rw [Nat.toString_eq_ofList_toDigits, String.toList_ofList] at h
  exact Nat.isDigit_of_mem_toDigits (by decide) (by decide) h

/-- The wording of a span, cut after the number. -/
theorem cutFirst?_text (span : Span) :
    Text.cutFirst? ' ' span.text.toList = some ((toString span.count).toList,
      (span.unit.name ++ if span.count = 1 then "" else "s").toList) := by
  apply Text.cutFirst?_eq_some_iff.mpr
  constructor
  · rw [text_eq]
    simp only [String.toList_append, List.append_assoc]
    rfl
  · intro hspace
    exact absurd (digit_of_mem_count hspace) (by decide)

/-- Different spans differ in their wording. -/
theorem text_injective {a b : Span} (h : a.text = b.text) : a = b := by
  have hcut := a.cutFirst?_text
  rw [h, b.cutFirst?_text] at hcut
  simp only [Option.some.injEq, Prod.mk.injEq, String.toList_inj] at hcut
  obtain ⟨hcount, hname⟩ := hcut
  have hsame : b.count = a.count := Nat.repr_inj.mp hcount
  rw [hsame, String.append_left_inj] at hname
  cases a
  cases b
  cases hsame
  cases SpanUnit.name_injective hname
  rfl

/-- What lies ahead is not worded like anything that lies back: the one begins with a letter, the
other with a digit. -/
theorem in_append_text_ne (a b : Span) : "in " ++ a.text ≠ b.text ++ " ago" := by
  intro h
  have hletter : ("in " ++ a.text).toList.head? = some 'i' := by
    rw [String.toList_append]
    rfl
  cases hchars : (toString b.count).toList with
  | nil => exact Nat.repr_ne_empty (String.toList_eq_nil_iff.mp hchars)
  | cons c rest =>
      have hdigit : c.isDigit := digit_of_mem_count (by rw [hchars]; exact List.mem_cons_self)
      rw [h, text_eq] at hletter
      simp only [String.toList_append, hchars, List.cons_append, List.head?_cons,
        Option.some.injEq] at hletter
      rw [hletter] at hdigit
      exact absurd hdigit (by decide)

end Span

/-! ## Points in time -/

namespace Instant

/-- Points in time by the second and, within a second and the leap second that follows it, by the
nanosecond. -/
def IsBefore (s t : Instant) : Prop :=
  s.seconds < t.seconds ∨ s.seconds = t.seconds ∧ s.nanosecond < t.nanosecond

instance (s t : Instant) : Decidable (s.IsBefore t) :=
  inferInstanceAs (Decidable (_ ∨ _))

/-- The first point lies in a leap second at the end of a day and the other one in the second after
it. A difference does not tell these two seconds apart. -/
def RunsInto (s t : Instant) : Prop :=
  s.inLeapSecond = true ∧ s.secondOfDay = 86399 ∧ t.seconds = s.seconds + 1

instance (s t : Instant) : Decidable (s.RunsInto t) :=
  inferInstanceAs (Decidable (_ ∧ _))

/-- A point in time so many seconds later, in a leap second if the first one was. -/
def later (t : Instant) (seconds : Int) : Instant :=
  { t with seconds := t.seconds + seconds }

variable {s t : Instant}

theorem since_of_no_leap (hs : s.inLeapSecond = false) (ht : t.inLeapSecond = false) :
    s.since t = s.nanoseconds - t.nanoseconds := by
  simp [since, hs, ht]

/-- Less than no time has passed since what is yet to come. -/
theorem since_neg_iff (hst : ¬ s.RunsInto t) (hts : ¬ t.RunsInto s) :
    s.since t < 0 ↔ s.IsBefore t := by
  have hs := s.nanosecond.isLt
  have ht := t.nanosecond.isLt
  unfold RunsInto at hst hts
  unfold since IsBefore nanoseconds
  simp only [inLeapSecond, secondOfDay, decide_eq_true_eq, Fin.lt_def] at hst hts ⊢
  split_ifs <;> omega

theorem since_later (s t : Instant) (days : Int) :
    (s.later (86400 * days)).since (t.later (86400 * days)) = s.since t := by
  have hday (u : Instant) : (u.later (86400 * days)).secondOfDay = u.secondOfDay :=
    Int.add_mul_emod_self_left u.seconds 86400 days
  have hnanoseconds (u : Instant) :
      (u.later (86400 * days)).nanoseconds = u.nanoseconds + 86400 * days * 1000000000 := by
    change (u.seconds + 86400 * days) * 1000000000 + ((u.nanosecond : Nat) : Int) =
      u.seconds * 1000000000 + ((u.nanosecond : Nat) : Int) + 86400 * days * 1000000000
    omega
  unfold since
  rw [hday, hday, hnanoseconds, hnanoseconds, Int.add_sub_add_right]
  rfl

end Instant

theorem relativeText_of_tells {now : Instant} {t : Timestamp} {span : Span}
    (h : span.Tells (now.since t.instant).natAbs) :
    relativeText now t =
      if now.since t.instant < 0 then "in " ++ span.text else span.text ++ " ago" := by
  rw [h.unique (Span.ofSeconds_tells (now.since t.instant).natAbs)]
  rfl

theorem relativeText_eq_in_iff {now : Instant} {t : Timestamp} {span : Span} :
    relativeText now t = "in " ++ span.text ↔
      now.since t.instant < 0 ∧ span.Tells (now.since t.instant).natAbs := by
  have htells := Span.ofSeconds_tells (now.since t.instant).natAbs
  constructor
  · intro h
    rw [relativeText_of_tells htells] at h
    split_ifs at h with hahead
    · obtain rfl := Span.text_injective ((String.append_right_inj _).mp h)
      exact ⟨hahead, htells⟩
    · exact absurd h.symm (Span.in_append_text_ne _ _)
  · rintro ⟨hahead, hspan⟩
    rw [relativeText_of_tells hspan, if_pos hahead]

theorem relativeText_eq_ago_iff {now : Instant} {t : Timestamp} {span : Span} :
    relativeText now t = span.text ++ " ago" ↔
      0 ≤ now.since t.instant ∧ span.Tells (now.since t.instant).natAbs := by
  have htells := Span.ofSeconds_tells (now.since t.instant).natAbs
  constructor
  · intro h
    rw [relativeText_of_tells htells] at h
    split_ifs at h with hahead
    · exact absurd h (Span.in_append_text_ne _ _)
    · obtain rfl := Span.text_injective ((String.append_left_inj _).mp h)
      exact ⟨Int.not_lt.mp hahead, htells⟩
  · rintro ⟨hback, hspan⟩
    rw [relativeText_of_tells hspan, if_neg (Int.not_lt.mpr hback)]

/-- The text depends on nothing but the difference. -/
theorem relativeText_congr {now now' : Instant} {t t' : Timestamp}
    (h : now'.since t'.instant = now.since t.instant) :
    relativeText now' t' = relativeText now t := by
  unfold relativeText
  rw [h]

/-- A date is told by the difference of now and the date, to the nanosecond, and lies ahead exactly
if the difference is negative. What is told of the difference is a whole number of the longest unit
that it holds, one unit in the singular and any other number in the plural; it does not get shorter
when the difference gets larger, and it is the same as far ahead as back and at whatever offset the
date was recorded. The difference is negative exactly if the date is later than now, but where one
of the two runs from a leap second at the end of a day into the other. Without leap seconds it
is the number of nanoseconds in between, and both may be shifted together as one likes; with them
both may be shifted by whole days. -/
theorem relative_text_tells_difference (now : Instant) (t : Timestamp) :
    (∃ span : Span, span.Tells (now.since t.instant).natAbs) ∧
    (∀ span : Span, relativeText now t = "in " ++ span.text ↔
      now.since t.instant < 0 ∧ span.Tells (now.since t.instant).natAbs) ∧
    (∀ span : Span, relativeText now t = span.text ++ " ago" ↔
      0 ≤ now.since t.instant ∧ span.Tells (now.since t.instant).natAbs) ∧
    (∀ span : Span, span.text = toString span.count ++ " " ++ span.unit.name ++
      if span.count = 1 then "" else "s") ∧
    (∀ (span other : Span) (difference : Nat), span.Tells (now.since t.instant).natAbs →
      other.Tells difference → (now.since t.instant).natAbs ≤ difference →
        span.nanoseconds ≤ other.nanoseconds) ∧
    (∀ (back : Timestamp) (span : Span), now.since t.instant < 0 → 0 ≤ now.since back.instant →
      (now.since back.instant).natAbs = (now.since t.instant).natAbs →
        (relativeText now t = "in " ++ span.text ↔
          relativeText now back = span.text ++ " ago")) ∧
    (∀ offset, relativeText now { t with offset } = relativeText now t) ∧
    (¬ now.RunsInto t.instant → ¬ t.instant.RunsInto now →
      (now.since t.instant < 0 ↔ now.IsBefore t.instant)) ∧
    (now.inLeapSecond = false → t.instant.inLeapSecond = false →
      now.since t.instant = now.nanoseconds - t.instant.nanoseconds ∧
      ∀ (now' : Instant) (t' : Timestamp),
        now'.inLeapSecond = false → t'.instant.inLeapSecond = false →
        now'.nanoseconds - t'.instant.nanoseconds = now.nanoseconds - t.instant.nanoseconds →
          relativeText now' t' = relativeText now t) ∧
    ∀ days, relativeText (now.later (86400 * days)) (t.instant.later (86400 * days)) =
      relativeText now t := by
  have htells := Span.ofSeconds_tells (now.since t.instant).natAbs
  refine ⟨⟨_, htells⟩, fun _ => relativeText_eq_in_iff, fun _ => relativeText_eq_ago_iff,
    Span.text_eq, fun _ _ _ hspan hother hle => hspan.nanoseconds_le hother hle, ?_,
    fun _ => relativeText_congr rfl, fun hst hts => Instant.since_neg_iff hst hts, ?_,
    fun days => relativeText_congr (Instant.since_later now t.instant days)⟩
  · intro back span hahead hback hsame
    rw [relativeText_eq_in_iff, relativeText_eq_ago_iff, hsame]
    simp only [hahead, hback]
  · intro hnow ht
    have hdifference := Instant.since_of_no_leap hnow ht
    refine ⟨hdifference, fun now' t' hnow' ht' hshift => relativeText_congr ?_⟩
    rw [hdifference, Instant.since_of_no_leap hnow' ht', hshift]

/-- The last nanosecond before a month is one of four weeks, ahead as well as back. -/
theorem relative_text_tells_difference_sample :
    let now : Instant := ⟨1792065600, 0⟩
    let ahead : Timestamp := ⟨⟨1794657599, 999999999⟩, 7200⟩
    let back : Timestamp := ⟨⟨1789473600, 1⟩, -3600⟩
    relativeText now ahead = "in 4 weeks" ∧ now.IsBefore ahead.instant ∧
      (⟨4, .week⟩ : Span).Tells (now.since ahead.instant).natAbs ∧
      relativeText now back = "4 weeks ago" := by
  have htext : relativeText ⟨1792065600, 0⟩ ⟨⟨1794657599, 999999999⟩, 7200⟩ =
      "in " ++ (⟨4, .week⟩ : Span).text := by
    decide +kernel
  obtain ⟨-, hin, -, -, -, hsame, -, horder, -, -⟩ :=
    relative_text_tells_difference ⟨1792065600, 0⟩ ⟨⟨1794657599, 999999999⟩, 7200⟩
  obtain ⟨hahead, htells⟩ := (hin ⟨4, .week⟩).mp htext
  have hbefore := (horder (by decide) (by decide)).mp hahead
  have hback := (hsame ⟨⟨1789473600, 1⟩, -3600⟩ ⟨4, .week⟩ hahead (by decide) (by decide)).mp htext
  exact ⟨htext, hbefore, htells, hback⟩

/-- Half a second before the end of June 2015, in the leap second that it ended with. Seen from
midnight this earlier point lies ahead, and if both are shifted by half a day it lies back. -/
theorem end_of_leap_second_lies_ahead :
    let midnight : Instant := ⟨1435708800, 0⟩
    let leap : Timestamp := ⟨⟨1435708799, 1500000000⟩, 0⟩
    leap.instant.IsBefore midnight ∧ relativeText midnight leap = "in 0 seconds" ∧
      relativeText (midnight.later 43200) (leap.instant.later 43200) = "0 seconds ago" := by
  decide +kernel

end CommitHeader.Calendar
