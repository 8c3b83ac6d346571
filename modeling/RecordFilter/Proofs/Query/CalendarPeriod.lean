import RecordFilter.Proofs.Period.Gap
import RecordFilter.Proofs.Query.PlainDay

/-!
# Calendar periods, asked for in several ways

A row can ask for a calendar period by its key.  The present week, month and year have verbs of
their own besides, the days around the present one can be asked for by their dates, and every
calendar period by its first and its last day.  The keys and the verbs lead to the window by
calculating with days, the dates by reading texts.  This file says that all of them lead to the same
query.

* `Verb.period?` — the period that a verb names by itself.
* `Period.ofKey?_surround` — a period is read from its key with white space around it.
* `Stretch.IsOf.year_mem` — the periods around a day lie in the year of the day, the one before it
  and the one after it.
* `Verb.compilesTo_calendarPeriod` — one query for all ways of asking for a period.
-/

set_option autoImplicit false

namespace RecordFilter

/-! ## Asking for a period -/

theorem Period.ofKey?_key (p : Period) : ofKey? p.key = some p := by
  cases p <;> decide +kernel

/-- A period is read from its key, whatever white space is around it. -/
theorem Period.ofKey?_surround {before after : String} (hbefore : Text.isBlank before = true)
    (hafter : Text.isBlank after = true) (p : Period) :
    ofKey? (before ++ p.key ++ after) = some p := by
  rw [ofKey?, Text.trim_surround hbefore hafter, ← ofKey?, ofKey?_key]

namespace Verb

/-- The period that a verb names by itself. -/
def period? : Verb → Option Period
  | dateThisWeek => some .thisWeek
  | dateThisMonth => some .thisMonth
  | dateThisYear => some .thisYear
  | _ => none

variable {settings : Settings} {base field : String} {p : Period} {window : Window}

/-- A row with the key of a period compiles to the window of the period. -/
theorem compilesTo_dateIsRelative {key : String} (hkey : Period.ofKey? key = some p)
    (hwindow : p.window? settings.now settings.options.weekStart = .ok (some window)) :
    dateIsRelative.CompilesTo settings base field (.relative key)
      (.atField base field fun path => .inWindow path window) := by
  refine compilesTo_atField fun path => ?_
  simp only [query?, Argument.key?, Query.ofPeriodKey?, Period.windowOfKey?, hkey, hwindow]
  rfl

/-- A row whose verb names a period compiles to the window of the period, and the values of the row
are not looked at. -/
theorem compilesTo_of_period? {verb : Verb} (hverb : verb.period? = some p)
    (hwindow : p.window? settings.now settings.options.weekStart = .ok (some window))
    (argument : Argument) :
    verb.CompilesTo settings base field argument
      (.atField base field fun path => .inWindow path window) := by
  have hperiod : ∀ path, verb.query? settings (Text.trim field) path argument =
      Query.orFault (Query.ofPeriod? path settings p) := by
    intro path
    cases verb
    case dateThisWeek | dateThisMonth | dateThisYear =>
      obtain rfl := Option.some.inj hverb
      rfl
    all_goals exact absurd hverb (Option.some_ne_none p).symm
  refine compilesTo_atField fun path => ?_
  rw [hperiod, Query.ofPeriod?, hwindow]
  rfl

end Verb

/-! ## The years of a period -/

theorem CalendarUnit.exists_period_eq {p : Period} (hp : p.rollingDays? = none) :
    ∃ (unit : CalendarUnit) (side : Neighbour), p = unit.period side := by
  cases p
  case yesterday => exact ⟨day, .last, rfl⟩
  case today => exact ⟨day, .this, rfl⟩
  case tomorrow => exact ⟨day, .next, rfl⟩
  case lastWeek => exact ⟨week, .last, rfl⟩
  case thisWeek => exact ⟨week, .this, rfl⟩
  case nextWeek => exact ⟨week, .next, rfl⟩
  case lastMonth => exact ⟨month, .last, rfl⟩
  case thisMonth => exact ⟨month, .this, rfl⟩
  case nextMonth => exact ⟨month, .next, rfl⟩
  case lastYear => exact ⟨year, .last, rfl⟩
  case thisYear => exact ⟨year, .this, rfl⟩
  case nextYear => exact ⟨year, .next, rfl⟩
  all_goals exact absurd hp (Option.some_ne_none _)

theorem CalendarUnit.eq_day_of_period_eq {unit : CalendarUnit} {side other : Neighbour}
    (h : unit.period side = day.period other) : unit = day ∧ side = other := by
  cases unit <;> cases side <;> cases other <;> first | exact ⟨rfl, rfl⟩ | cases h

/-- Years apart, no stretch of a unit is longer than 31 days. -/
theorem CalendarUnit.start_succ_le {unit : CalendarUnit} (hunit : unit ≠ year)
    (weekStart : Weekday) (i : Int) :
    (unit.division weekStart).start (i + 1) ≤ (unit.division weekStart).start i + 31 := by
  cases unit with
  | day => simp [division, Division.days]
  | week => simp only [division, Division.weeks]; omega
  | month =>
    have hlength := Division.monthLength_mem i
    simp only [division, Division.months, Civil.monthStart_succ]
    omega
  | year => exact absurd rfl hunit

/-- **The periods around a day begin and end in the year of the day or in a year next to it.** -/
theorem Stretch.IsOf.year_mem {stretch : Stretch} {unit : CalendarUnit} {weekStart : Weekday}
    {day : Day} {side : Neighbour}
    (h : stretch.IsOf (unit.division weekStart)
      ((unit.division weekStart).index day.number + side.shift)) :
    day.civil.year - 1 ≤ stretch.first.civil.year ∧
      stretch.last.civil.year ≤ day.civil.year + 1 := by
  have hyear : ∀ d : Day, d.civil.year = Division.years.index d.number := fun _ => rfl
  have hside := side.shift_mem
  by_cases hunit : unit = .year
  · subst hunit
    have hfirst : stretch.first.civil.year = day.civil.year + side.shift :=
      h.contains_iff.1 ⟨Int.le_refl _, h.first_le_last⟩
    have hlast : stretch.last.civil.year = day.civil.year + side.shift :=
      h.contains_iff.1 ⟨h.first_le_last, Int.le_refl _⟩
    omega
  · -- the stretches before and after the one of the day are within two months of it
    have hfirst := (unit.division weekStart).start_near (unit.start_succ_le hunit weekStart)
      day.number hside.1 (by omega)
    have hlast := (unit.division weekStart).start_near (unit.start_succ_le hunit weekStart)
      day.number (by omega) hside.2
    have hfirst' := h.first_number
    have hlast' := h.last_number
    rw [Int.add_assoc] at hlast'
    rw [hyear, hyear, hyear]
    exact ⟨(Division.years_index_near (by omega) (by omega)).1,
      (Division.years_index_near (by omega) (by omega)).2⟩

/-! ## One query for all ways of asking -/

/-- The text of a day is a value for the window of the day. -/
theorem Literal.dayWindow?_text {d : Day} (h : d.HasFourDigitYear) (offset : Offset) :
    ∃ window, (Literal.text d.text).dayWindow? offset = .ok (some window) ∧
      window.Spans offset ⟨d, d⟩ :=
  exists_dayWindow? (day?_text h offset) (h.isSome_start? offset).1 (h.isSome_start? offset).2

theorem Instant.eq_of_seconds_of_nanos {t u : Instant} (hseconds : t.seconds = u.seconds)
    (hnanos : t.nanos = u.nanos) : t = u := by
  rw [Instant.mk.injEq]
  exact ⟨hseconds, hnanos⟩

/-- There is one window of the days of a stretch. -/
theorem Window.Spans.eq {window other : Window} {offset : Offset} {stretch : Stretch}
    (h : window.Spans offset stretch) (h' : other.Spans offset stretch) : window = other := by
  have hstart : window.start.seconds = other.start.seconds :=
    add_right_cancel (h.start_seconds.trans h'.start_seconds.symm)
  have hfinish : window.finish.seconds = other.finish.seconds :=
    add_right_cancel (h.finish_seconds.trans h'.finish_seconds.symm)
  rw [Window.mk.injEq]
  exact ⟨Instant.eq_of_seconds_of_nanos hstart (h.start_nanos.trans h'.start_nanos.symm),
    Instant.eq_of_seconds_of_nanos hfinish (h.finish_nanos.trans h'.finish_nanos.symm)⟩

namespace Verb

/-- **A calendar period compiles to one query, however it is asked for.**  Take a moment whose local
date lies in the years 2 to 9997, and a calendar period.  It has a window, of the days from a first
to a last one.  Whatever the field and the base, these rows compile to the query for this window,
and leave no note: the key of the period, with white space around it or without; the verb that names
the period, if there is one, whatever the values; the date of the day, if the period is today,
yesterday or tomorrow; and the time between the dates of the first and the last day. -/
theorem compilesTo_calendarPeriod (settings : Settings) (base field : String) {today : Day}
    (htoday : settings.now.day? = some today) (hlow : 2 ≤ today.civil.year)
    (hhigh : today.civil.year ≤ 9997) {p : Period} (hp : p.rollingDays? = none) :
    ∃ (first last : Day) (window : Window) (q : Query),
      p.window? settings.now settings.options.weekStart = .ok (some window) ∧
      window.Spans settings.now.offset ⟨first, last⟩ ∧
      first.HasFourDigitYear ∧ last.HasFourDigitYear ∧
      q = .atField base field (fun path => .inWindow path window) ∧
      (∀ before after, Text.isBlank before = true → Text.isBlank after = true →
        dateIsRelative.CompilesTo settings base field (.relative (before ++ p.key ++ after)) q) ∧
      (∀ (verb : Verb) (argument : Argument), verb.period? = some p →
        verb.CompilesTo settings base field argument q) ∧
      (∀ side, p = CalendarUnit.day.period side →
        first.number = today.number + side.shift ∧ last = first ∧
        dateIs.CompilesTo settings base field (.single (.text first.text)) q) ∧
      dateBetween.CompilesTo settings base field
        (.range (some (.text first.text)) (some (.text last.text))) q := by
  obtain ⟨unit, side, rfl⟩ := CalendarUnit.exists_period_eq hp
  have hfour : today.HasFourDigitYear := ⟨by omega, by omega⟩
  have hnumber := hfour.number_mem
  obtain ⟨stretch, window, hstretch⟩ := unit.exists_window settings.options.weekStart htoday
    (by rw [InCalendar]; omega) (by rw [InCalendar]; omega)
  obtain ⟨hside, hwindow, hspans⟩ := hstretch side
  have hyears := hside.year_mem
  have horder := hside.first_le_last
  have hle : (stretch side).first.civil.year ≤ (stretch side).last.civil.year :=
    Division.le_index_iff.2 ((Division.years.start_index_le _).trans horder)
  have hfirst : (stretch side).first.HasFourDigitYear := ⟨by omega, by omega⟩
  have hlast : (stretch side).last.HasFourDigitYear := ⟨by omega, by omega⟩
  obtain ⟨opening, hopening, hopens⟩ := Literal.dayWindow?_text hfirst settings.now.offset
  obtain ⟨closing, hclosing, hcloses⟩ := Literal.dayWindow?_text hlast settings.now.offset
  -- the texts are read as the same two days, and so their windows make up the one of the period
  have hboth : (Window.mk opening.start closing.finish).Spans settings.now.offset (stretch side) :=
    ⟨hopens.start_seconds, hopens.start_nanos, hcloses.finish_seconds, hcloses.finish_nanos⟩
  refine ⟨(stretch side).first, (stretch side).last, window side, _, hwindow, hspans, hfirst,
    hlast, rfl, ?_, ?_, ?_, ?_⟩
  · intro before after hbefore hafter
    exact compilesTo_dateIsRelative (Period.ofKey?_surround hbefore hafter _) hwindow
  · intro verb argument hverb
    exact compilesTo_of_period? hverb hwindow argument
  · intro other hother
    obtain ⟨rfl, rfl⟩ := CalendarUnit.eq_day_of_period_eq hother
    have hsame : (stretch side).first = (stretch side).last := hside.isWhole
    have hday : Stretch.mk (stretch side).first (stretch side).first = stretch side := by
      rw [Stretch.mk.injEq]
      exact ⟨rfl, hsame⟩
    rw [hday] at hopens
    rw [← hopens.eq hspans]
    exact ⟨hside.first_number, hsame.symm, compilesTo_ofPlace hopening .eq⟩
  · rw [← hboth.eq hspans]
    exact compilesTo_dateBetween hopening hclosing

/-- Late on 29 February 2024, on a clock that is five and a half hours ahead, the present month is
the time from 1 to 29 February. -/
theorem compilesTo_calendarPeriod_leap_day :
    ∃ (settings : Settings) (today : Day) (q : Query),
      settings.now.day? = some today ∧ today.civil = ⟨2024, 2, 29⟩ ∧
      Period.thisMonth.rollingDays? = none ∧
      dateIsRelative.CompilesTo settings "shop" "at" (.relative " this_month") q ∧
      dateThisMonth.CompilesTo settings "shop" "at" .nothing q ∧
      dateBetween.CompilesTo settings "shop" "at"
        (.range (some (.text "2024-02-01")) (some (.text "2024-02-29"))) q := by
  let settings : Settings :=
    ⟨⟨⟨1709229600, 0, by decide, by decide⟩, ⟨19800, by decide⟩⟩, .default, none⟩
  have htoday : settings.now.day? = some ⟨19782, by decide⟩ := rfl
  have hdate : (Day.mk 19782 (by decide)).civil = ⟨2024, 2, 29⟩ := by decide
  obtain ⟨first, last, window, q, hwindow, hspans, -, -, -, hkey, hverb, -, hbetween⟩ :=
    compilesTo_calendarPeriod settings "shop" "at" htoday (by decide) (by decide)
      (p := .thisMonth) rfl
  have hmonth : Period.thisMonth.window? settings.now settings.options.weekStart =
      .ok (some ⟨⟨1706725800, 0, by decide, by decide⟩,
        ⟨1709231399, 999000000, by decide, by decide⟩⟩) := by decide +kernel
  obtain rfl := Option.some.inj (Except.ok.inj (hwindow.symm.trans hmonth))
  have hfirst : first = ⟨19754, by decide⟩ := by
    have hseconds := hspans.start_seconds
    refine Day.eq_of_number ?_
    dsimp [settings] at hseconds ⊢
    omega
  have hlast : last = ⟨19782, by decide⟩ := by
    have hseconds := hspans.finish_seconds
    refine Day.eq_of_number ?_
    dsimp [settings] at hseconds ⊢
    omega
  have hopening : first.text = "2024-02-01" := by
    rw [hfirst]
    decide +kernel
  have hclosing : last.text = "2024-02-29" := by
    rw [hlast]
    decide +kernel
  rw [hopening, hclosing] at hbetween
  exact ⟨settings, _, q, htoday, hdate, rfl, hkey " " "" (by decide) (by decide),
    hverb dateThisMonth .nothing rfl, hbetween⟩

end Verb
end RecordFilter
