import Mathlib
import RecordFilter.Calendar.Day

/-!
# Days and dates

The date of a day is found by a guess at the year and by counting off months.  This file says that
the guess is right and that the counting ends: every day has one date, and the months and the years
follow one another without a gap.

* `Civil.yearStart_yearOf` — a day lies in its year.
* `Civil.yearStart_succ` — a year is as long as its months together.
* `Civil.isDate_ofNumber`, `Civil.number_ofNumber` — the date of a day exists, and it is the date of
  that day.
* `Civil.monthStart_succ` — a month is as long as the table says, also at the end of a year.
-/

set_option autoImplicit false

namespace RecordFilter
namespace Civil

/-! ## Years -/

/-- The number of days of a year. -/
def yearLength (leap : Bool) : Nat := if leap then 366 else 365

theorem yearLength_mem : ∀ leap : Bool, 365 ≤ yearLength leap ∧ yearLength leap ≤ 366 := by
  decide

theorem yearStart_succ (year : Int) :
    yearStart (year + 1) = yearStart year + yearLength (isLeap year) := by
  by_cases hleap : isLeap year = true
  · rw [hleap]
    simp only [isLeap, Bool.and_eq_true, Bool.or_eq_true, decide_eq_true_eq] at hleap
    simp only [yearStart, yearLength, if_true]
    omega
  · rw [Bool.not_eq_true] at hleap
    rw [hleap]
    simp only [isLeap, Bool.and_eq_false_iff, Bool.or_eq_false_iff, decide_eq_false_iff_not]
      at hleap
    simp only [yearStart, yearLength, Bool.false_eq_true, if_false]
    omega

/-- A year never begins two days off from where years of the mean length would have it. -/
theorem yearStart_mem (year : Int) :
    146097 * (year - 1970) - 600 ≤ 400 * yearStart year ∧
      400 * yearStart year ≤ 146097 * (year - 1970) + 600 := by
  have hfourth := Int.mul_ediv_add_emod (year - 1) 4
  have hcentury := Int.mul_ediv_add_emod (year - 1) 100
  have hera := Int.mul_ediv_add_emod (year - 1) 400
  rw [yearStart]
  constructor <;> omega

/-- The year that the mean length leads to is the one before or after the right one at worst, and
then it is mended. -/
theorem yearStart_yearOf (number : Int) :
    yearStart (yearOf number) ≤ number ∧ number < yearStart (yearOf number + 1) := by
  have hmean : ∀ guess, number * 400 / 146097 + 1970 = guess →
      146097 * (guess - 1970) ≤ number * 400 ∧ number * 400 < 146097 * (guess + 1 - 1970) := by
    intro guess hguess
    omega
  simp only [yearOf]
  generalize hguess : number * 400 / 146097 + 1970 = guess
  obtain ⟨hlow, hhigh⟩ := hmean guess hguess
  split
  · rename_i hbefore
    have hstart := yearStart_mem (guess - 1)
    rw [Int.sub_add_cancel]
    omega
  · rename_i hbefore
    split
    · rename_i hafter
      have hnext := yearStart_mem (guess + 1 + 1)
      omega
    · rename_i hafter
      exact ⟨Int.not_lt.1 hbefore, Int.not_le.1 hafter⟩

/-! ## Months of a year -/

theorem daysBeforeMonth_eq (leap : Bool) (month : Nat) :
    daysBeforeMonth leap month = ((monthLengths leap).take (month - 1)).sum := by
  rw [daysBeforeMonth, List.sum_eq_foldl]

theorem sum_monthLengths (leap : Bool) : (monthLengths leap).sum = yearLength leap := by
  cases leap <;> rfl

theorem daysBeforeMonth_succ : ∀ leap : Bool, ∀ months < 12,
    daysBeforeMonth leap (months + 2) =
      daysBeforeMonth leap (months + 1) + (monthLengths leap).getD months 0 := by
  decide

theorem daysBeforeMonth_thirteen (leap : Bool) : daysBeforeMonth leap 13 = yearLength leap := by
  cases leap <;> rfl

theorem monthLength_mem : ∀ leap : Bool, ∀ months < 12,
    1 ≤ (monthLengths leap).getD months 0 ∧ (monthLengths leap).getD months 0 ≤ 31 := by
  decide

/-- Counting off months ends in a month that has the day, if there are as many days at all. -/
theorem monthAndDay_eq {lengths : List Nat} {count : Nat} (h : count < lengths.sum)
    (month : Nat) : ∃ months days, monthAndDay month count lengths = (month + months, days + 1) ∧
      months < lengths.length ∧ days < lengths.getD months 0 ∧
      (lengths.take months).sum + days = count := by
  induction lengths generalizing month count with
  | nil => exact absurd h (Nat.not_lt_zero count)
  | cons length rest ih =>
    rw [monthAndDay]
    rw [List.sum_cons] at h
    by_cases hlength : count < length
    · refine ⟨0, count, ?_, Nat.succ_pos _, hlength, Nat.zero_add count⟩
      rw [if_pos hlength]
      rfl
    · have hrest : count - length < rest.sum := by omega
      obtain ⟨months, days, hfound, hmonths, hdays, hsum⟩ := ih hrest (month + 1)
      refine ⟨months + 1, days, ?_, Nat.succ_lt_succ hmonths, hdays, ?_⟩
      · rw [if_neg hlength, hfound, Nat.add_right_comm, Nat.add_assoc]
      · rw [List.take_succ_cons, List.sum_cons]
        omega

/-! ## The date of a day -/

/-- The months before the date in its year, and the days before it in its month. -/
theorem ofNumber_eq (number : Int) : ∃ months days : Nat,
    ofNumber number = ⟨yearOf number, months + 1, days + 1⟩ ∧ months < 12 ∧
      days < (monthLengths (isLeap (yearOf number))).getD months 0 ∧
      yearStart (yearOf number) + daysBeforeMonth (isLeap (yearOf number)) (months + 1) + days =
        number := by
  obtain ⟨hlow, hhigh⟩ := yearStart_yearOf number
  rw [yearStart_succ, ← sum_monthLengths] at hhigh
  have hcount : (number - yearStart (yearOf number)).toNat <
      (monthLengths (isLeap (yearOf number))).sum := by omega
  obtain ⟨months, days, hfound, hmonths, hdays, hsum⟩ := monthAndDay_eq hcount 1
  refine ⟨months, days, ?_, hmonths, hdays, ?_⟩
  · simp only [ofNumber, hfound, Nat.add_comm 1 months]
  · rw [daysBeforeMonth_eq, Nat.add_sub_cancel]
    omega

theorem isDate_ofNumber (number : Int) : (ofNumber number).IsDate := by
  obtain ⟨months, days, hdate, hmonths, hdays, -⟩ := ofNumber_eq number
  rw [hdate]
  exact ⟨Nat.succ_pos months, hmonths, Nat.succ_pos days, hdays⟩

/-- **The date of a day is the date of that day.** -/
theorem number_ofNumber (number : Int) : (ofNumber number).number = number := by
  obtain ⟨months, days, hdate, -, -, hsum⟩ := ofNumber_eq number
  rw [hdate, Civil.number]
  dsimp only
  omega

/-! ## Months through the years -/

/-- The first day of the month after `months` months, counted from January of the year 0. -/
def monthStart (months : Int) : Int :=
  (Civil.mk (months / 12) ((months % 12).toNat + 1) 1).number

theorem monthStart_eq (months : Int) : monthStart months =
    yearStart (months / 12) + daysBeforeMonth (isLeap (months / 12)) ((months % 12).toNat + 1) := by
  rw [monthStart, Civil.number]
  dsimp only
  omega

/-- The number of days of the month after `months` months. -/
def monthLength (months : Int) : Nat :=
  (monthLengths (isLeap (months / 12))).getD (months % 12).toNat 0

/-- **Months follow one another, also from December to January.** -/
theorem monthStart_succ (months : Int) :
    monthStart (months + 1) = monthStart months + monthLength months := by
  rw [monthStart_eq, monthStart_eq, monthLength]
  have hinYear : (months % 12).toNat < 12 := by omega
  have hlength := daysBeforeMonth_succ (isLeap (months / 12)) (months % 12).toNat hinYear
  by_cases hdecember : months % 12 = 11
  · have hyear : (months + 1) / 12 = months / 12 + 1 := by omega
    have hjanuary : ((months + 1) % 12).toNat = 0 := by omega
    have heleven : (months % 12).toNat = 11 := by omega
    rw [heleven, daysBeforeMonth_thirteen] at hlength
    rw [hyear, hjanuary, heleven, yearStart_succ, hlength]
    have hnone : daysBeforeMonth (isLeap (months / 12 + 1)) (0 + 1) = 0 := rfl
    omega
  · have hyear : (months + 1) / 12 = months / 12 := by omega
    have hmonth : ((months + 1) % 12).toNat + 1 = (months % 12).toNat + 2 := by omega
    rw [hyear, hmonth, hlength]
    omega

/-- The number of months from January of the year 0 to the month of a date. -/
def months (c : Civil) : Int := c.year * 12 + ((c.month : Int) - 1)

/-- The day of a date lies in the month of that date. -/
theorem monthStart_months {c : Civil} (hdate : c.IsDate) :
    monthStart c.months ≤ c.number ∧ c.number < monthStart (c.months + 1) := by
  obtain ⟨hmonth, hmonth', hday, hday'⟩ := hdate
  have hyear : c.months / 12 = c.year := by
    rw [months]
    omega
  have hinYear : (c.months % 12).toNat = c.month - 1 := by
    rw [months]
    omega
  have hsucc : c.month - 1 + 1 = c.month := Nat.sub_add_cancel hmonth
  rw [monthStart_succ, monthStart_eq, monthLength, hyear, hinYear, hsucc, Civil.number]
  omega

end Civil
end RecordFilter
