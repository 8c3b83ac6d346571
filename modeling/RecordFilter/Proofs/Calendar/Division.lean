import RecordFilter.Proofs.Calendar.Civil

/-!
# Divisions of the days

Days, weeks, months and years all divide the days into stretches that follow one another.  What is
said of a week and the week after it does not depend on how long weeks are, so it is said here once
for all divisions.

* `Division` — the first day of each stretch, and the stretch of each day.
* `Division.index_eq_iff` — the days of a stretch are those from its first day to the first day of
  the next one.
* `Division.days`, `Division.weeks`, `Division.months`, `Division.years` — the four divisions.
-/

set_option autoImplicit false

namespace RecordFilter

/-- A division of the days into stretches that follow one another, none of them longer than a leap
year.  Days and stretches are counted by integers. -/
structure Division where
  /-- The first day of a stretch. -/
  start : Int → Int
  /-- The stretch in which a day lies. -/
  index : Int → Int
  start_index_le : ∀ day, start (index day) ≤ day
  lt_start_succ_index : ∀ day, day < start (index day + 1)
  start_lt_succ : ∀ i, start i < start (i + 1)
  start_succ_le : ∀ i, start (i + 1) ≤ start i + 366

namespace Division

variable {division : Division} {day i : Int}

theorem start_strictMono : StrictMono division.start :=
  strictMono_int_of_lt_succ division.start_lt_succ

/-- **The days of a stretch**, from its first one to the day before the next stretch. -/
theorem index_eq_iff :
    division.index day = i ↔ division.start i ≤ day ∧ day < division.start (i + 1) := by
  constructor
  · rintro rfl
    exact ⟨division.start_index_le day, division.lt_start_succ_index day⟩
  · rintro ⟨hlow, hhigh⟩
    -- a stretch that begins later begins after the day, and the day is past one that ended before
    have hle : division.index day < i + 1 :=
      start_strictMono.lt_iff_lt.1 (lt_of_le_of_lt (division.start_index_le day) hhigh)
    have hge : i < division.index day + 1 :=
      start_strictMono.lt_iff_lt.1 (lt_of_le_of_lt hlow (division.lt_start_succ_index day))
    omega

/-- A stretch begins no later than a day exactly when the stretch of the day does not come before
it. -/
theorem le_index_iff : i ≤ division.index day ↔ division.start i ≤ day := by
  constructor
  · intro hle
    exact (start_strictMono.monotone hle).trans (division.start_index_le day)
  · intro hstart
    exact Int.le_of_lt_add_one
      (start_strictMono.lt_iff_lt.1 (lt_of_le_of_lt hstart (division.lt_start_succ_index day)))

/-- The stretch before the one of a day and the two after it begin near the day, if no stretch is
longer than `length` days. -/
theorem start_near {length : Int}
    (hlength : ∀ i, division.start (i + 1) ≤ division.start i + length) (day : Int) {shift : Int}
    (hlow : -1 ≤ shift) (hhigh : shift ≤ 2) :
    day - 2 * length < division.start (division.index day + shift) ∧
      division.start (division.index day + shift) ≤ day + 2 * length := by
  have hown := division.start_index_le day
  have hnext := division.lt_start_succ_index day
  have hbefore := hlength (division.index day + -1)
  have hthis := hlength (division.index day)
  have hafter := hlength (division.index day + 1)
  rw [Int.neg_add_cancel_right] at hbefore
  -- the first days of the stretches between them lie between theirs
  have hle : division.start (division.index day + -1) ≤
      division.start (division.index day + shift) :=
    start_strictMono.monotone (Int.add_le_add_left hlow _)
  have hle' : division.start (division.index day + shift) ≤
      division.start (division.index day + 1 + 1) :=
    start_strictMono.monotone (by omega)
  omega

/-! ## Days and weeks -/

/-- Each day is a stretch of its own. -/
def days : Division where
  start i := i
  index day := day
  start_index_le day := Int.le_refl day
  lt_start_succ_index day := Int.lt_succ day
  start_lt_succ i := Int.lt_succ i
  start_succ_le i := by omega

/-- The weeks that begin on a given day of the week. -/
def weeks (weekStart : Weekday) : Division where
  start i := i * 7 + weekStart.sinceSunday - 4
  index day := (day + 4 - weekStart.sinceSunday) / 7
  start_index_le day := by omega
  lt_start_succ_index day := by omega
  start_lt_succ i := by omega
  start_succ_le i := by omega

/-! ## Months and years -/

theorem monthLength_mem (months : Int) :
    1 ≤ Civil.monthLength months ∧ Civil.monthLength months ≤ 31 :=
  Civil.monthLength_mem (Civil.isLeap (months / 12)) (months % 12).toNat (by omega)

/-- The months, counted from January of the year 0. -/
def months : Division where
  start := Civil.monthStart
  index day := (Civil.ofNumber day).months
  start_index_le day := by
    have h := (Civil.monthStart_months (Civil.isDate_ofNumber day)).1
    rwa [Civil.number_ofNumber] at h
  lt_start_succ_index day := by
    have h := (Civil.monthStart_months (Civil.isDate_ofNumber day)).2
    rwa [Civil.number_ofNumber] at h
  start_lt_succ i := by
    have hlength := monthLength_mem i
    rw [Civil.monthStart_succ]
    omega
  start_succ_le i := by
    have hlength := monthLength_mem i
    rw [Civil.monthStart_succ]
    omega

/-- The years of the calendar. -/
def years : Division where
  start := Civil.yearStart
  index := Civil.yearOf
  start_index_le day := (Civil.yearStart_yearOf day).1
  lt_start_succ_index day := (Civil.yearStart_yearOf day).2
  start_lt_succ i := by
    have hlength := Civil.yearLength_mem (Civil.isLeap i)
    rw [Civil.yearStart_succ]
    omega
  start_succ_le i := by
    have hlength := Civil.yearLength_mem (Civil.isLeap i)
    rw [Civil.yearStart_succ]
    omega

/-- Days that are less than a year apart lie in one year or in two that follow one another. -/
theorem years_index_near {day other : Int} (hlow : day - 365 ≤ other) (hhigh : other ≤ day + 365) :
    years.index day - 1 ≤ years.index other ∧ years.index other ≤ years.index day + 1 := by
  have hstart := years.start_index_le day
  have hnext := years.lt_start_succ_index day
  have hbefore := Civil.yearStart_succ (years.index day - 1)
  have hafter := Civil.yearStart_succ (years.index day + 1)
  have hlength := Civil.yearLength_mem (Civil.isLeap (years.index day - 1))
  have hlength' := Civil.yearLength_mem (Civil.isLeap (years.index day + 1))
  rw [Int.sub_add_cancel] at hbefore
  have hyear : years.start (years.index day - 1) ≤ other ∧
      other < years.start (years.index day + 1 + 1) := by
    simp only [years] at *
    omega
  rw [← le_index_iff, ← Int.not_le, ← le_index_iff] at hyear
  omega

end Division
end RecordFilter
