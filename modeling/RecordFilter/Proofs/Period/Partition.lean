import RecordFilter.Period.Window
import RecordFilter.Proofs.Calendar.Division

/-!
# Calendar periods divide the calendar

The last, the present and the next day, week, month and year are stretches of one division of the
days, with no gap between them and no day in two of them; and it does not matter from which day of a
stretch one looks at it.

* `CalendarUnit.period` — the twelve calendar periods, as the neighbours of the present stretch of
  four units.
* `CalendarUnit.days?_period` — the first and the last day of a period are those of a stretch of the
  division of its unit.
* `Period.daysWindow?_eq` — its window goes from the first midnight to the last millisecond.
* `CalendarUnit.periods_partition` — the three periods of a unit follow one another, and each of
  them is the present one of all its days.
-/

set_option autoImplicit false

namespace RecordFilter

/-! ## Units, and periods as neighbours -/

/-- The units that calendar periods are counted in. -/
inductive CalendarUnit where
  | day
  | week
  | month
  | year

/-- A stretch of a unit as it is named from within another one. -/
inductive Neighbour where
  | last
  | this
  | next

/-- How many stretches later a neighbour is. -/
def Neighbour.shift : Neighbour → Int
  | last => -1
  | this => 0
  | next => 1

theorem Neighbour.shift_mem (side : Neighbour) : -1 ≤ side.shift ∧ side.shift + 1 ≤ 2 := by
  cases side <;> decide

namespace CalendarUnit

/-- The periods of a unit. -/
def period : CalendarUnit → Neighbour → Period
  | day, .last => .yesterday
  | day, .this => .today
  | day, .next => .tomorrow
  | week, .last => .lastWeek
  | week, .this => .thisWeek
  | week, .next => .nextWeek
  | month, .last => .lastMonth
  | month, .this => .thisMonth
  | month, .next => .nextMonth
  | year, .last => .lastYear
  | year, .this => .thisYear
  | year, .next => .nextYear

/-- The division of the days into the stretches of a unit. -/
def division (weekStart : Weekday) : CalendarUnit → Division
  | day => .days
  | week => .weeks weekStart
  | month => .months
  | year => .years

theorem rollingDays?_period (unit : CalendarUnit) (side : Neighbour) :
    (unit.period side).rollingDays? = none := by
  cases unit <;> cases side <;> rfl

end CalendarUnit

/-! ## Stretches of days -/

/-- The days from a first to a last one. -/
structure Stretch where
  first : Day
  last : Day

namespace Stretch

/-- Whether a day is one of a stretch. -/
def Contains (stretch : Stretch) (day : Day) : Prop :=
  stretch.first.number ≤ day.number ∧ day.number ≤ stretch.last.number

/-- Whether a stretch of days is the one of a division with this index. -/
structure IsOf (stretch : Stretch) (division : Division) (i : Int) : Prop where
  first_number : stretch.first.number = division.start i
  last_number : stretch.last.number = division.start (i + 1) - 1

theorem IsOf.contains_iff {stretch : Stretch} {division : Division} {i : Int}
    (h : stretch.IsOf division i) {day : Day} :
    stretch.Contains day ↔ division.index day.number = i := by
  rw [Contains, Division.index_eq_iff, h.first_number, h.last_number]
  omega

theorem IsOf.first_le_last {stretch : Stretch} {division : Division} {i : Int}
    (h : stretch.IsOf division i) : stretch.first.number ≤ stretch.last.number := by
  have hlt := division.start_lt_succ i
  rw [h.first_number, h.last_number]
  omega

end Stretch

/-- Whether a stretch of days is a whole one of a unit: a day; a week from the given day of the week
on; all days with the same month and year, or with the same year. -/
def CalendarUnit.IsWhole (weekStart : Weekday) (stretch : Stretch) : CalendarUnit → Prop
  | day => stretch.first = stretch.last
  | week =>
    stretch.first.sinceSunday = weekStart.sinceSunday ∧
      stretch.last.number = stretch.first.number + 6
  | month =>
    ∃ year month, ∀ day : Day,
      stretch.Contains day ↔ day.civil.year = year ∧ day.civil.month = month
  | year => ∃ year, ∀ day : Day, stretch.Contains day ↔ day.civil.year = year

theorem Day.eq_of_number {d e : Day} (h : d.number = e.number) : d = e := by
  rw [Day.mk.injEq]
  exact h

theorem Weekday.sinceSunday_mem (w : Weekday) : 0 ≤ w.sinceSunday ∧ w.sinceSunday ≤ 6 := by
  cases w <;> decide

theorem Day.month_mem (day : Day) : 1 ≤ day.civil.month ∧ day.civil.month ≤ 12 := by
  obtain ⟨hlow, hhigh, -⟩ := Civil.isDate_ofNumber day.number
  exact ⟨hlow, hhigh⟩

theorem Stretch.IsOf.isWhole {unit : CalendarUnit} {weekStart : Weekday} {stretch : Stretch}
    {i : Int} (h : stretch.IsOf (unit.division weekStart) i) : unit.IsWhole weekStart stretch := by
  cases unit with
  | day =>
    have hfirst : stretch.first.number = i := h.first_number
    have hlast : stretch.last.number = i + 1 - 1 := h.last_number
    refine Day.eq_of_number ?_
    omega
  | week =>
    have hfirst : stretch.first.number = i * 7 + weekStart.sinceSunday - 4 := h.first_number
    have hlast : stretch.last.number = (i + 1) * 7 + weekStart.sinceSunday - 4 - 1 := h.last_number
    have hweekday := weekStart.sinceSunday_mem
    rw [CalendarUnit.IsWhole, Day.sinceSunday]
    omega
  | month =>
    refine ⟨i / 12, (i % 12).toNat + 1, fun day => ?_⟩
    have hmonths : (CalendarUnit.month.division weekStart).index day.number =
      day.civil.year * 12 + ((day.civil.month : Int) - 1) := rfl
    have hmonth := day.month_mem
    rw [h.contains_iff, hmonths]
    omega
  | year => exact ⟨i, fun day => h.contains_iff⟩

/-! ## The days of a period -/

namespace Day

theorem ofNumber?_of_number {number : Int} {d : Day} (h : d.number = number) :
    ofNumber? number = some d := by
  subst h
  rw [ofNumber?, dif_pos d.inCalendar]

theorem ofCivil?_of_number {c : Civil} (hdate : c.IsDate) {d : Day} (h : d.number = c.number) :
    ofCivil? c = some d := by
  rw [ofCivil?, if_pos hdate, ofNumber?_of_number h]

theorem plus?_of_number {d later : Day} {count : Int} (h : later.number = d.number + count) :
    d.plus? count = some later :=
  ofNumber?_of_number h

end Day

theorem Civil.isDate_first (year : Int) {month : Nat} (hlow : 1 ≤ month) (hhigh : month ≤ 12) :
    (Civil.mk year month 1).IsDate := by
  have hlength := monthLength_mem (isLeap year) (month - 1) (by omega)
  exact ⟨hlow, hhigh, Nat.le_refl 1, hlength.1⟩

namespace Period

variable {today : Day} {stretch : Stretch}

theorem weekOf?_eq {weekStart : Weekday} {weeks : Int}
    (h : stretch.IsOf (.weeks weekStart) ((Division.weeks weekStart).index today.number + weeks))
    (hown : InCalendar ((Division.weeks weekStart).start
      ((Division.weeks weekStart).index today.number))) :
    weekOf? today weekStart weeks = some (stretch.first, stretch.last) := by
  obtain ⟨hfirst, hlast⟩ := h
  obtain ⟨own, hownNumber⟩ : ∃ own : Day, own.number = (Division.weeks weekStart).start
    ((Division.weeks weekStart).index today.number) := ⟨⟨_, hown⟩, rfl⟩
  simp only [Division.weeks] at hfirst hlast hownNumber
  have hback : today.plus? (-((today.sinceSunday - weekStart.sinceSunday) % 7)) = some own := by
    refine Day.plus?_of_number ?_
    rw [Day.sinceSunday]
    omega
  have hshift : own.plus? (weeks * 7) = some stretch.first := by
    refine Day.plus?_of_number ?_
    rw [hfirst]
    omega
  have hsix : stretch.first.plus? 6 = some stretch.last := by
    refine Day.plus?_of_number ?_
    omega
  simp only [weekOf?, hback, hshift, hsix, Option.bind_eq_bind, Option.bind_some, Option.pure_def]

theorem monthOf?_eq {months : Int}
    (h : stretch.IsOf .months (Division.months.index today.number + months))
    (hnext : InCalendar (Division.months.start (Division.months.index today.number + months + 1))) :
    monthOf? today months = some (stretch.first, stretch.last) := by
  obtain ⟨hfirst, hlast⟩ := h
  have hmonth : ∀ i : Int, ∀ d : Day, d.number = Division.months.start i →
      Day.ofCivil? ⟨i / 12, (i % 12).toNat + 1, 1⟩ = some d := by
    intro i d hd
    exact Day.ofCivil?_of_number (Civil.isDate_first _ (by omega) (by omega)) hd
  have hback : (Day.mk _ hnext).plus? (-1) = some stretch.last := Day.plus?_of_number hlast
  have hindex : Division.months.index today.number =
    today.civil.year * 12 + ((today.civil.month : Int) - 1) := rfl
  simp only [monthOf?, ← hindex, hmonth _ _ hfirst, hmonth _ (Day.mk _ hnext) rfl, hback,
    Option.bind_eq_bind, Option.bind_some, Option.pure_def]

theorem yearOf?_eq {year : Int} (h : stretch.IsOf .years year) :
    yearOf? year = some (stretch.first, stretch.last) := by
  obtain ⟨hfirst, hlast⟩ := h
  have hnewYear : Day.ofCivil? ⟨year, 1, 1⟩ = some stretch.first := by
    refine Day.ofCivil?_of_number (Civil.isDate_first year (by decide) (by decide)) ?_
    have hnone : Civil.daysBeforeMonth (Civil.isLeap year) 1 = 0 := rfl
    have hyear : stretch.first.number = Civil.yearStart year := hfirst
    rw [hyear, Civil.number]
    dsimp only
    omega
  have hlastDay : Day.ofCivil? ⟨year, 12, 31⟩ = some stretch.last := by
    have hlength : (Civil.monthLengths (Civil.isLeap year)).getD 11 0 = 31 := rfl
    refine Day.ofCivil?_of_number
      ⟨Nat.le_add_left 1 11, Nat.le_refl 12, Nat.le_add_left 1 30, hlength.ge⟩ ?_
    have hdecember : Civil.daysBeforeMonth (Civil.isLeap year) 13 =
        Civil.daysBeforeMonth (Civil.isLeap year) 12 + 31 :=
      Civil.daysBeforeMonth_succ (Civil.isLeap year) 11 (by decide)
    rw [Civil.daysBeforeMonth_thirteen] at hdecember
    have hyear : stretch.last.number = Civil.yearStart (year + 1) - 1 := hlast
    rw [hyear, Civil.yearStart_succ, hdecember, Civil.number]
    dsimp only
    omega
  simp only [yearOf?, hnewYear, hlastDay, Option.bind_eq_bind, Option.bind_some, Option.pure_def]

end Period

namespace CalendarUnit

/-- **The days of a calendar period are a stretch of the division of its unit.**  The first day of
the present stretch and the day after the period are calculated on the way, so the calendar has to
have them. -/
theorem days?_period {unit : CalendarUnit} {side : Neighbour} {weekStart : Weekday} {today : Day}
    {stretch : Stretch}
    (h : stretch.IsOf (unit.division weekStart)
      ((unit.division weekStart).index today.number + side.shift))
    (hown : InCalendar ((unit.division weekStart).start
      ((unit.division weekStart).index today.number)))
    (hnext : InCalendar ((unit.division weekStart).start
      ((unit.division weekStart).index today.number + side.shift + 1))) :
    (unit.period side).days? weekStart today = some (stretch.first, stretch.last) := by
  cases unit with
  | day =>
    have hnumber : stretch.first.number = today.number + side.shift := h.first_number
    have hnumber' : stretch.last.number = today.number + side.shift + 1 - 1 := h.last_number
    have hsame : stretch.last = stretch.first := by
      refine Day.eq_of_number ?_
      omega
    have hplus : today.plus? side.shift = some stretch.first := Day.plus?_of_number hnumber
    rw [hsame]
    cases side with
    | last => exact congrArg (Option.map fun day => (day, day)) hplus
    | next => exact congrArg (Option.map fun day => (day, day)) hplus
    | this =>
      have htoday : stretch.first = today := by
        refine Day.eq_of_number ?_
        rw [hnumber]
        exact Int.add_zero _
      rw [htoday]
      rfl
  | week => cases side <;> exact Period.weekOf?_eq h hown
  | month => cases side <;> exact Period.monthOf?_eq h hnext
  | year =>
    cases side with
    | last => exact Period.yearOf?_eq h
    | next => exact Period.yearOf?_eq h
    | this =>
      rw [Neighbour.shift, Int.add_zero] at h
      exact Period.yearOf?_eq h

end CalendarUnit

/-! ## The window of a period -/

/-- Whether a window goes from the first midnight of a stretch of days to its last millisecond, on a
clock with this offset. -/
structure Window.Spans (window : Window) (offset : Offset) (stretch : Stretch) : Prop where
  start_seconds : window.start.seconds + offset.seconds = stretch.first.number * 86400
  start_nanos : window.start.nanos = 0
  finish_seconds : window.finish.seconds + offset.seconds = stretch.last.number * 86400 + 86399
  finish_nanos : window.finish.nanos = 999000000

theorem Window.Spans.compare_eq_lt {window : Window} {offset : Offset} {stretch : Stretch}
    (h : window.Spans offset stretch) (hle : stretch.first.number ≤ stretch.last.number) :
    window.start.compare window.finish = .lt := by
  have hstart := h.start_seconds
  have hfinish := h.finish_seconds
  have hlt : window.start.seconds < window.finish.seconds := by omega
  rw [Instant.compare, compare_lt_iff_lt.2 hlt]
  rfl

theorem Instant.ofSeconds?_eq {seconds : Int} {nanos : Nat} (hnanos : nanos < 2000000000)
    (h : InCalendar (seconds / 86400)) :
    ofSeconds? seconds nanos = some ⟨seconds, nanos, hnanos, h⟩ := by
  rw [ofSeconds?, dif_pos ⟨hnanos, h⟩]

/-- A day with a day before it begins on every clock. -/
theorem Day.exists_start? {d : Day} (hbefore : InCalendar (d.number - 1)) (offset : Offset) :
    ∃ t, d.start? offset = some t ∧ t.seconds + offset.seconds = d.number * 86400 ∧
      t.nanos = 0 := by
  have hbounds := offset.bounded
  have hday := d.inCalendar
  have hstart : InCalendar ((d.number * 86400 - offset.seconds) / 86400) := by
    rw [InCalendar] at *
    omega
  exact ⟨_, Instant.ofSeconds?_eq (by decide) hstart, Int.sub_add_cancel .., rfl⟩

/-- A day with a day after it ends on every clock. -/
theorem Day.exists_finish? {d : Day} (hafter : InCalendar (d.number + 1)) (offset : Offset) :
    ∃ t, d.finish? offset = some t ∧ t.seconds + offset.seconds = d.number * 86400 + 86399 ∧
      t.nanos = 999000000 := by
  have hbounds := offset.bounded
  have hday := d.inCalendar
  have hfinish : InCalendar ((d.number * 86400 + 86399 - offset.seconds) / 86400) := by
    rw [InCalendar] at *
    omega
  exact ⟨_, Instant.ofSeconds?_eq (by decide) hfinish, Int.sub_add_cancel .., rfl⟩

/-- A stretch with a day before it and a day after it begins and ends on every clock. -/
theorem Period.daysWindow?_eq {stretch : Stretch} (hbefore : InCalendar (stretch.first.number - 1))
    (hafter : InCalendar (stretch.last.number + 1)) (offset : Offset) :
    ∃ window, daysWindow? stretch.first stretch.last offset = some window ∧
      window.Spans offset stretch := by
  obtain ⟨start, hstart, hseconds, hnanos⟩ := Day.exists_start? hbefore offset
  obtain ⟨finish, hfinish, hseconds', hnanos'⟩ := Day.exists_finish? hafter offset
  refine ⟨⟨start, finish⟩, ?_, hseconds, hnanos, hseconds', hnanos'⟩
  rw [daysWindow?, hstart, hfinish]
  rfl

/-- A moment with a local date sees the windows of periods from this date. -/
theorem Period.window?_eq {now : Moment} {today : Day} (htoday : now.day? = some today)
    (p : Period) (weekStart : Weekday) :
    p.window? now weekStart = .ok (p.windowOn? now weekStart today) := by
  rw [window?, Moment.today, htoday]
  rfl

theorem CalendarUnit.window?_period {unit : CalendarUnit} {side : Neighbour} {weekStart : Weekday}
    {now : Moment} {today : Day} (htoday : now.day? = some today) {first last : Day}
    (hdays : (unit.period side).days? weekStart today = some (first, last)) :
    (unit.period side).window? now weekStart = .ok (Period.daysWindow? first last now.offset) := by
  rw [Period.window?_eq htoday, Period.windowOn?, unit.rollingDays?_period, hdays]
  rfl

/-! ## The division into periods -/

namespace CalendarUnit

/-- Around a day that is far from both ends of the calendar there are the three stretches, each with
a day before it and a day after it. -/
theorem exists_stretch (division : Division) {today : Day} (hlow : InCalendar (today.number - 801))
    (hhigh : InCalendar (today.number + 801)) :
    ∃ stretch : Neighbour → Stretch, ∀ side,
      (stretch side).IsOf division (division.index today.number + side.shift) ∧
      InCalendar ((stretch side).first.number - 1) ∧
      InCalendar ((stretch side).last.number + 1) := by
  have hbounds : ∀ side : Neighbour,
      (today.number - 2 * 366 < division.start (division.index today.number + side.shift) ∧
        division.start (division.index today.number + side.shift) ≤ today.number + 2 * 366) ∧
      today.number - 2 * 366 < division.start (division.index today.number + side.shift + 1) ∧
        division.start (division.index today.number + side.shift + 1) ≤
          today.number + 2 * 366 := by
    intro side
    have hshift := side.shift_mem
    rw [Int.add_assoc _ side.shift 1]
    exact ⟨Division.start_near division.start_succ_le today.number hshift.1 (by omega),
      Division.start_near division.start_succ_le today.number (by omega) hshift.2⟩
  have hin : ∀ {number : Int}, today.number - 801 ≤ number → number ≤ today.number + 801 →
      InCalendar number := by
    intro number hle hle'
    rw [InCalendar] at *
    omega
  have hfirst : ∀ side : Neighbour,
      InCalendar (division.start (division.index today.number + side.shift)) := by
    intro side
    have hside := hbounds side
    exact hin (by omega) (by omega)
  have hlast : ∀ side : Neighbour,
      InCalendar (division.start (division.index today.number + side.shift + 1) - 1) := by
    intro side
    have hside := hbounds side
    exact hin (by omega) (by omega)
  refine ⟨fun side => ⟨⟨_, hfirst side⟩, ⟨_, hlast side⟩⟩, fun side => ⟨⟨rfl, rfl⟩, ?_, ?_⟩⟩
  all_goals
    have hside := hbounds side
    dsimp only
    exact hin (by omega) (by omega)

/-- **The periods of a unit divide the calendar.**  Take a moment whose local date is more than 800
days from both ends of the calendar.  The last, the present and the next stretch of a unit have
windows, of whole days on the local clock, and are whole ones of that unit.  The present one holds
the date of the moment; it begins the day after the last one ends and ends the day before the next
one begins.  And at any moment in one of the three, on the same clock, the present stretch is that
one. -/
theorem periods_partition (unit : CalendarUnit) (weekStart : Weekday) {now : Moment} {today : Day}
    (htoday : now.day? = some today) (hlow : InCalendar (today.number - 801))
    (hhigh : InCalendar (today.number + 801)) :
    ∃ stretch : Neighbour → Stretch,
      (∀ side, ∃ window, (unit.period side).window? now weekStart = .ok (some window) ∧
        window.Spans now.offset (stretch side) ∧ window.start.compare window.finish = .lt ∧
        unit.IsWhole weekStart (stretch side)) ∧
      (stretch .this).Contains today ∧
      (stretch .next).first.number = (stretch .this).last.number + 1 ∧
      (stretch .this).first.number = (stretch .last).last.number + 1 ∧
      ∀ (side : Neighbour) (other : Moment) (day : Day), other.offset = now.offset →
        other.day? = some day → (stretch side).Contains day →
        (unit.period .this).window? other weekStart = (unit.period side).window? now weekStart := by
  obtain ⟨stretch, hstretch⟩ := exists_stretch (unit.division weekStart) hlow hhigh
  -- seen from any day, a period has the days of its stretch
  have hdays : ∀ (day : Day) (side named : Neighbour),
      (stretch side).IsOf (unit.division weekStart)
        ((unit.division weekStart).index day.number + named.shift) →
      InCalendar ((unit.division weekStart).start ((unit.division weekStart).index day.number)) →
      (unit.period named).days? weekStart day =
        some ((stretch side).first, (stretch side).last) := by
    intro day side named hside hown
    obtain ⟨-, -, hafter⟩ := hstretch side
    rw [hside.last_number, Int.sub_add_cancel] at hafter
    exact days?_period hside hown hafter
  have htodays : ∀ side, (unit.period side).days? weekStart today =
      some ((stretch side).first, (stretch side).last) := by
    intro side
    have hown := (stretch .this).first.inCalendar
    rw [(hstretch .this).1.first_number, Neighbour.shift, Int.add_zero] at hown
    exact hdays today side side (hstretch side).1 hown
  refine ⟨stretch, fun side => ?_, ?_, ?_, ?_, ?_⟩
  · obtain ⟨hside, hbefore, hafter⟩ := hstretch side
    obtain ⟨window, hwindow, hspans⟩ := Period.daysWindow?_eq hbefore hafter now.offset
    refine ⟨window, ?_, hspans, hspans.compare_eq_lt hside.first_le_last, hside.isWhole⟩
    rw [window?_period htoday (htodays side), hwindow]
  · rw [(hstretch .this).1.contains_iff]
    exact (Int.add_zero _).symm
  · rw [(hstretch .next).1.first_number, (hstretch .this).1.last_number, Int.sub_add_cancel,
      Int.add_assoc]
    rfl
  · rw [(hstretch .this).1.first_number, (hstretch .last).1.last_number, Int.sub_add_cancel,
      Int.add_assoc]
    rfl
  · intro side other day hoffset hday hcontains
    have hside := (hstretch side).1
    have hindex := hside.contains_iff.1 hcontains
    have hown := (stretch side).first.inCalendar
    rw [hside.first_number, ← hindex] at hown
    have hthis : (stretch side).IsOf (unit.division weekStart)
        ((unit.division weekStart).index day.number + Neighbour.this.shift) := by
      rw [Neighbour.shift, Int.add_zero, hindex]
      exact hside
    rw [window?_period hday (hdays day side .this hthis hown), hoffset,
      window?_period htoday (htodays side)]

/-- Late on 29 February 2024, on a clock that is five and a half hours ahead, there are three whole
months around the moment. -/
theorem periods_partition_leap_day :
    ∃ (now : Moment) (today : Day), now.day? = some today ∧ today.civil = ⟨2024, 2, 29⟩ ∧
      InCalendar (today.number - 801) ∧ InCalendar (today.number + 801) ∧
      ∃ stretch : Neighbour → Stretch, (stretch .this).Contains today ∧
        ∀ side, ∃ window, (month.period side).window? now .monday = .ok (some window) ∧
          window.Spans now.offset (stretch side) ∧ month.IsWhole .monday (stretch side) := by
  have hnow : Moment.day? ⟨⟨1709229600, 0, by decide, by decide⟩, ⟨19800, by decide⟩⟩ =
      some ⟨19782, by decide⟩ := rfl
  obtain ⟨stretch, hside, hcontains, -⟩ :=
    periods_partition .month .monday hnow (by decide) (by decide)
  refine ⟨_, _, hnow, by decide, by decide, by decide, stretch, hcontains, fun side => ?_⟩
  obtain ⟨window, hwindow, hspans, -, hwhole⟩ := hside side
  exact ⟨window, hwindow, hspans, hwhole⟩

end CalendarUnit
end RecordFilter
