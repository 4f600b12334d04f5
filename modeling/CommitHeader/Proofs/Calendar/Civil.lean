import CommitHeader.Calendar.Civil
import Mathlib

/-!
# Days and dates

Every day number is one date. The year and the days passed in it give the number back, and the days
passed are told by the month and the day of the month, which lie within the year. So two days with
the same year, month and day are the same day.
-/

namespace CommitHeader.Calendar

/-! ## Years -/

/-- A day by the groups of years before it: cycles of four hundred years, hundreds, groups of four
and single years. Only the last year of a group of four has a day numbered 365, and it has none
where a hundred ends that does not end a cycle. -/
theorem exists_groups (number : Int) :
    ∃ (cycles : Int) (hundreds fours ones passed : Nat),
      yearOf number = (400 * cycles + 100 * hundreds + 4 * fours + ones + 1, passed) ∧
      number = 146097 * cycles + 36524 * hundreds + 1461 * fours + 365 * ones + passed ∧
      hundreds ≤ 3 ∧ fours ≤ 24 ∧ ones ≤ 3 ∧ passed ≤ 365 ∧
      (passed = 365 → ones = 3 ∧ (fours = 24 → hundreds = 3)) := by
  obtain ⟨inCycle, hcycle⟩ : ∃ inCycle : Nat, number % 146097 = inCycle :=
    ⟨(number % 146097).toNat, by omega⟩
  have hdivide := Int.mul_ediv_add_emod number 146097
  have hlt : inCycle < 146097 := by omega
  let hundreds := min (inCycle / 36524) 3
  let inHundred := inCycle - 36524 * hundreds
  let fours := inHundred / 1461
  let inFour := inHundred - 1461 * fours
  let ones := min (inFour / 365) 3
  have hhundreds : hundreds = min (inCycle / 36524) 3 := rfl
  have hinHundred : inHundred = inCycle - 36524 * hundreds := rfl
  have hfours : fours = inHundred / 1461 := rfl
  have hinFour : inFour = inHundred - 1461 * fours := rfl
  have hones : ones = min (inFour / 365) 3 := rfl
  have hyear : yearOf number =
      (400 * (number / 146097) + 100 * hundreds + 4 * fours + ones + 1, inFour - 365 * ones) := by
    rw [yearOf, hcycle]
    rfl
  clear_value hundreds inHundred fours inFour ones
  refine ⟨number / 146097, hundreds, fours, ones, inFour - 365 * ones, hyear, ?_, ?_, ?_, ?_, ?_, ?_⟩
    <;> omega

theorem daysBefore_add_passed (number : Int) :
    daysBefore (yearOf number).1 + (yearOf number).2 = number := by
  obtain ⟨cycles, hundreds, fours, ones, passed, hyear, hnumber, hhundreds, hfours, hones, -, -⟩ :=
    exists_groups number
  rw [hyear, hnumber, daysBefore]
  omega

theorem isLeap_of_passed {number : Int} (h : (yearOf number).2 = 365) :
    isLeap (yearOf number).1 = true := by
  obtain ⟨cycles, hundreds, fours, ones, passed, hyear, -, -, hfours, -, -, hlast⟩ :=
    exists_groups number
  rw [hyear] at h ⊢
  obtain ⟨rfl, hhundreds⟩ := hlast h
  simp only [isLeap, Bool.and_eq_true, Bool.or_eq_true, decide_eq_true_eq]
  omega

theorem sum_monthLengths (leap : Bool) :
    (monthLengths leap).sum = if leap = true then 366 else 365 := by
  cases leap <;> rfl

theorem passed_lt_sum (number : Int) :
    (yearOf number).2 < (monthLengths (isLeap (yearOf number).1)).sum := by
  obtain ⟨cycles, hundreds, fours, ones, passed, hyear, -, -, -, -, hle, -⟩ := exists_groups number
  have hpassed : (yearOf number).2 ≤ 365 := by
    rw [hyear]
    exact hle
  rw [sum_monthLengths]
  by_cases h : (yearOf number).2 = 365
  · rw [if_pos (isLeap_of_passed h)]
    omega
  · split_ifs <;> omega

/-! ## Months -/

/-- The months before the one found, and the days in it, make up the days passed. -/
theorem monthAndDay_spec {month passed : Nat} {lengths : List Nat} (h : passed < lengths.sum) :
    month ≤ (monthAndDay month lengths passed).1 ∧
      (monthAndDay month lengths passed).1 < month + lengths.length ∧
      (lengths.take ((monthAndDay month lengths passed).1 - month)).sum +
        (monthAndDay month lengths passed).2 = passed + 1 := by
  induction lengths generalizing month passed with
  | nil => simp at h
  | cons length lengths ih =>
      rw [List.sum_cons] at h
      rw [monthAndDay]
      split_ifs with hlt
      · simp
      · obtain ⟨hle, hbound, hsum⟩ := @ih (month + 1) (passed - length) (by omega)
        have hmonths : (monthAndDay (month + 1) lengths (passed - length)).1 - month =
            (monthAndDay (month + 1) lengths (passed - length)).1 - (month + 1) + 1 := by
          omega
        rw [hmonths, List.take_succ_cons, List.sum_cons, List.length_cons]
        omega

/-- The day found is one of the days of its month. -/
theorem monthAndDay_day {month passed : Nat} {lengths : List Nat} (h : passed < lengths.sum) :
    1 ≤ (monthAndDay month lengths passed).2 ∧ (monthAndDay month lengths passed).2 ≤
      lengths.getD ((monthAndDay month lengths passed).1 - month) 0 := by
  induction lengths generalizing month passed with
  | nil => simp at h
  | cons length lengths ih =>
      rw [List.sum_cons] at h
      rw [monthAndDay]
      split_ifs with hlt
      · simpa using hlt
      · have hrest : passed - length < lengths.sum := by omega
        obtain ⟨hmonth, -, -⟩ := @monthAndDay_spec (month + 1) _ _ hrest
        have hmonths : (monthAndDay (month + 1) lengths (passed - length)).1 - month =
            (monthAndDay (month + 1) lengths (passed - length)).1 - (month + 1) + 1 := by
          omega
        rw [hmonths, List.getD_cons_succ]
        exact ih hrest

namespace CivilDate

theorem number_ofNumber (number : Int) : (ofNumber number).number = number :=
  daysBefore_add_passed number

theorem month_ofNumber (number : Int) :
    1 ≤ (ofNumber number).month ∧ (ofNumber number).month ≤ 12 := by
  obtain ⟨hle, hlt, -⟩ := @monthAndDay_spec 1 _ _ (passed_lt_sum number)
  exact ⟨hle, Nat.le_of_lt_succ hlt⟩

/-- The place of a day in its year, from its month and its day of the month. -/
theorem dayOfYear_ofNumber (number : Int) :
    (ofNumber number).dayOfYear =
      ((monthLengths (isLeap (ofNumber number).year)).take ((ofNumber number).month - 1)).sum +
        (ofNumber number).day :=
  (@monthAndDay_spec 1 _ _ (passed_lt_sum number)).2.2.symm

theorem day_ofNumber (number : Int) :
    1 ≤ (ofNumber number).day ∧ (ofNumber number).day ≤
      (monthLengths (isLeap (ofNumber number).year)).getD ((ofNumber number).month - 1) 0 :=
  @monthAndDay_day 1 _ _ (passed_lt_sum number)

theorem weekday_ofNumber (number : Int) :
    ((ofNumber number).weekday : Int) = (ofNumber number).number % 7 := by
  have hweekday : (ofNumber number).weekday = (number % 7).toNat := rfl
  rw [number_ofNumber, hweekday]
  omega

theorem ofNumber_injective {a b : Int} (hyear : (ofNumber a).year = (ofNumber b).year)
    (hmonth : (ofNumber a).month = (ofNumber b).month)
    (hday : (ofNumber a).day = (ofNumber b).day) : a = b := by
  have hpassed : (ofNumber a).dayOfYear = (ofNumber b).dayOfYear := by
    rw [dayOfYear_ofNumber, dayOfYear_ofNumber, hyear, hmonth, hday]
  calc a = (ofNumber a).number := (number_ofNumber a).symm
    _ = (ofNumber b).number := by rw [number, number, hyear, hpassed]
    _ = b := number_ofNumber b

end CivilDate

end CommitHeader.Calendar
