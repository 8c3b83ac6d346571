import RecordFilter.Proofs.Calendar.LocalDay

/-!
# Instants between two periods

The days of the last, the present and the next period of a unit follow one another without a gap,
but their windows do not: a window ends with the last whole millisecond of a day.  What is left of
that millisecond, and a leap second at the end of the day, lies in none of them.  This file says
that nothing else does.

* `Window.Contains` — whether an instant lies in a window.
* `Stretch.LeavesOut` — whether an instant lies on the last day of a stretch, and after its window.
* `Window.Spans.contains_iff` — a window of whole days contains the instants of these days, except
  for those that it leaves out.
* `CalendarUnit.existsUnique_period_iff` — the instants around a moment lie in one period exactly,
  except for those that one of them leaves out.
-/

set_option autoImplicit false

namespace RecordFilter

/-! ## Windows and what they leave out -/

/-- Whether an instant lies in a window; both ends belong to it. -/
def Window.Contains (window : Window) (t : Instant) : Prop :=
  ¬ t.compare window.start = .lt ∧ ¬ t.compare window.finish = .gt

/-- Whether an instant lies on the last day of a stretch, on a clock with this offset, but after the
last whole millisecond of that day. -/
def Stretch.LeavesOut (stretch : Stretch) (offset : Offset) (t : Instant) : Prop :=
  t.seconds + offset.seconds = stretch.last.number * 86400 + 86399 ∧ 999000000 < t.nanos

/-- No instant is left out that is a whole number of milliseconds. -/
theorem Stretch.not_leavesOut_of_isWholeMillis {stretch : Stretch} {offset : Offset} {t : Instant}
    (ht : t.IsWholeMillis) : ¬ stretch.LeavesOut offset t := by
  obtain ⟨hnanos, hmillis⟩ := ht
  rintro ⟨-, hafter⟩
  omega

/-- **A window of whole days contains the instants of these days**, except for those that it leaves
out. -/
theorem Window.Spans.contains_iff {window : Window} {offset : Offset} {stretch : Stretch}
    {t : Instant} (h : window.Spans offset stretch) :
    window.Contains t ↔
      (stretch.first.number ≤ t.localDay offset ∧ t.localDay offset ≤ stretch.last.number) ∧
        ¬ stretch.LeavesOut offset t := by
  have hfinish := h.finish_seconds
  rw [Window.Contains, h.compare_start_iff, h.compare_finish_iff, Stretch.LeavesOut]
  omega

namespace Stretch.IsOf

variable {stretch : Stretch} {division : Division} {i : Int}

/-- The days of a stretch of a division, by their numbers. -/
theorem mem_iff (h : stretch.IsOf division i) {number : Int} :
    stretch.first.number ≤ number ∧ number ≤ stretch.last.number ↔ division.index number = i := by
  rw [Division.index_eq_iff, h.first_number, h.last_number]
  omega

/-- What a stretch leaves out lies on one of its days. -/
theorem index_of_leavesOut (h : stretch.IsOf division i) {offset : Offset} {t : Instant}
    (hleft : stretch.LeavesOut offset t) : division.index (t.localDay offset) = i := by
  have hdays := h.first_le_last
  rw [← h.mem_iff, Instant.localDay, hleft.1]
  omega

/-- A window of the days of a stretch contains the instants whose day is in the stretch, except for
those that it leaves out. -/
theorem contains_window_iff (h : stretch.IsOf division i) {window : Window} {offset : Offset}
    (hspans : window.Spans offset stretch) {t : Instant} :
    window.Contains t ↔
      division.index (t.localDay offset) = i ∧ ¬ stretch.LeavesOut offset t := by
  rw [hspans.contains_iff, h.mem_iff]

end Stretch.IsOf

/-- The local date of a moment is the local day of its instant. -/
theorem Moment.localDay_of_day? {now : Moment} {today : Day} (h : now.day? = some today) :
    now.instant.localDay now.offset = today.number := by
  rw [day?_eq, Day.ofNumber?] at h
  split at h
  · exact congrArg Day.number (Option.some.inj h)
  · cases h

/-! ## The periods around a moment -/

theorem Neighbour.eq_of_shift_eq {side other : Neighbour} (h : side.shift = other.shift) :
    side = other := by
  cases side <;> cases other
  case last.last | this.this | next.next => rfl
  all_goals exact absurd h (by decide)

theorem Neighbour.exists_shift_eq {i : Int} (hlow : -1 ≤ i) (hhigh : i ≤ 1) :
    ∃ side : Neighbour, side.shift = i := by
  obtain rfl | rfl | rfl : i = -1 ∨ i = 0 ∨ i = 1 := by omega
  · exact ⟨.last, rfl⟩
  · exact ⟨.this, rfl⟩
  · exact ⟨.next, rfl⟩

namespace CalendarUnit

/-- A moment whose local date is far from both ends of the calendar has the windows of all three
periods of a unit, and each of them spans the days of its stretch. -/
theorem exists_window (unit : CalendarUnit) (weekStart : Weekday) {now : Moment} {today : Day}
    (htoday : now.day? = some today) (hlow : InCalendar (today.number - 801))
    (hhigh : InCalendar (today.number + 801)) :
    ∃ (stretch : Neighbour → Stretch) (window : Neighbour → Window), ∀ side,
      (stretch side).IsOf (unit.division weekStart)
        ((unit.division weekStart).index today.number + side.shift) ∧
      (unit.period side).window? now weekStart = .ok (some (window side)) ∧
      (window side).Spans now.offset (stretch side) := by
  obtain ⟨stretch, hstretch⟩ := exists_stretch (unit.division weekStart) hlow hhigh
  have hown := (stretch .this).first.inCalendar
  rw [(hstretch .this).1.first_number, Neighbour.shift, Int.add_zero] at hown
  have hwindow : ∀ side, ∃ window,
      (unit.period side).window? now weekStart = .ok (some window) ∧
        window.Spans now.offset (stretch side) := by
    intro side
    obtain ⟨hside, hbefore, hafter⟩ := hstretch side
    obtain ⟨window, hwindow, hspans⟩ := Period.daysWindow?_eq hbefore hafter now.offset
    rw [hside.last_number, Int.sub_add_cancel] at hafter
    refine ⟨window, ?_, hspans⟩
    rw [window?_period htoday (days?_period hside hown hafter), hwindow]
  choose window hwindow using hwindow
  exact ⟨stretch, window, fun side => ⟨(hstretch side).1, hwindow side⟩⟩

/-- **Nothing lies between two periods but what is left of a millisecond.**  Take a moment whose
local date is more than 800 days from both ends of the calendar.  The last, the present and the next
stretch of a unit have windows.  The moment itself lies in the present one unless that one leaves it
out.  An instant from the beginning of the last window to the end of the next one lies in at most
one of the three, and in exactly one unless one of them leaves it out.  So whole milliseconds
outside of a leap second always lie in exactly one. -/
theorem existsUnique_period_iff (unit : CalendarUnit) (weekStart : Weekday) {now : Moment}
    {today : Day} (htoday : now.day? = some today) (hlow : InCalendar (today.number - 801))
    (hhigh : InCalendar (today.number + 801)) :
    ∃ (stretch : Neighbour → Stretch) (window : Neighbour → Window),
      (∀ side, (unit.period side).window? now weekStart = .ok (some (window side)) ∧
        (window side).Spans now.offset (stretch side)) ∧
      ((window .this).Contains now.instant ↔
        ¬ (stretch .this).LeavesOut now.offset now.instant) ∧
      ∀ t : Instant, ¬ t.compare (window .last).start = .lt →
        ¬ t.compare (window .next).finish = .gt →
        (∀ side other, (window side).Contains t → (window other).Contains t → side = other) ∧
        ((∃! side, (window side).Contains t) ↔
          ∀ side, ¬ (stretch side).LeavesOut now.offset t) ∧
        (t.IsWholeMillis → ∃! side, (window side).Contains t) := by
  obtain ⟨stretch, window, h⟩ := exists_window unit weekStart htoday hlow hhigh
  have hcontains : ∀ (side : Neighbour) (t : Instant), (window side).Contains t ↔
      (unit.division weekStart).index (t.localDay now.offset) =
          (unit.division weekStart).index today.number + side.shift ∧
        ¬ (stretch side).LeavesOut now.offset t :=
    fun side t => (h side).1.contains_window_iff (h side).2.2
  refine ⟨stretch, window, fun side => (h side).2, ?_, fun t hstart hfinish => ?_⟩
  · rw [hcontains, Moment.localDay_of_day? htoday, Neighbour.shift, Int.add_zero]
    exact and_iff_right rfl
  have hunique : ∀ side other, (window side).Contains t → (window other).Contains t →
      side = other := by
    intro side other hside hother
    rw [hcontains] at hside hother
    exact Neighbour.eq_of_shift_eq (by omega)
  have hiff : (∃! side, (window side).Contains t) ↔
      ∀ side, ¬ (stretch side).LeavesOut now.offset t := by
    constructor
    · rintro ⟨side, hside, -⟩ other hleft
      -- what a stretch leaves out lies on a day of that stretch, and so in no other one
      have hother := (h other).1.index_of_leavesOut hleft
      rw [hcontains] at hside
      obtain rfl : side = other := Neighbour.eq_of_shift_eq (by omega)
      exact hside.2 hleft
    · intro hnone
      rw [(h .last).2.2.compare_start_iff, (h .last).1.first_number, Int.not_lt,
        ← Division.le_index_iff] at hstart
      rw [(h .next).2.2.compare_finish_iff, not_or, (h .next).1.last_number, Int.not_lt,
        Int.le_sub_one_iff, ← Int.not_le, ← Division.le_index_iff] at hfinish
      have hlast : Neighbour.last.shift = -1 := rfl
      have hnext : Neighbour.next.shift = 1 := rfl
      obtain ⟨side, hside⟩ : ∃ side : Neighbour, side.shift =
          (unit.division weekStart).index (t.localDay now.offset) -
            (unit.division weekStart).index today.number :=
        Neighbour.exists_shift_eq (by omega) (by omega)
      have hin : (window side).Contains t := (hcontains side t).2 ⟨by omega, hnone side⟩
      exact ⟨side, hin, fun other hother => hunique other side hother hin⟩
  exact ⟨hunique, hiff, fun ht => hiff.2 fun side => Stretch.not_leavesOut_of_isWholeMillis ht⟩

/-- The last millisecond of June, seen from itself, lies in one of the last, the present and the
next month. -/
theorem existsUnique_period_end_of_june :
    ∃ (now : Moment) (today : Day) (window : Neighbour → Window),
      now.day? = some today ∧ today.civil = ⟨2024, 6, 30⟩ ∧ now.instant.IsWholeMillis ∧
      InCalendar (today.number - 801) ∧ InCalendar (today.number + 801) ∧
      (∀ side, (month.period side).window? now .monday = .ok (some (window side))) ∧
      ¬ now.instant.compare (window .last).start = .lt ∧
      ¬ now.instant.compare (window .next).finish = .gt ∧
      ∃! side, (window side).Contains now.instant := by
  let now : Moment := ⟨⟨1719791999, 999000000, by decide, by decide⟩, ⟨0, by decide⟩⟩
  have hnow : now.day? = some ⟨19904, by decide⟩ := rfl
  have hmillis : now.instant.IsWholeMillis := ⟨by decide, by decide⟩
  obtain ⟨stretch, window, hwindow, -, hrange⟩ :=
    existsUnique_period_iff .month .monday hnow (by decide) (by decide)
  have hmay : (month.period .last).window? now .monday =
      .ok (some ⟨⟨1714521600, 0, by decide, by decide⟩,
        ⟨1717199999, 999000000, by decide, by decide⟩⟩) := by decide +kernel
  have hjuly : (month.period .next).window? now .monday =
      .ok (some ⟨⟨1719792000, 0, by decide, by decide⟩,
        ⟨1722470399, 999000000, by decide, by decide⟩⟩) := by decide +kernel
  have hstart : ¬ now.instant.compare (window .last).start = .lt := by
    rw [Option.some.inj (Except.ok.inj ((hwindow .last).1.symm.trans hmay))]
    decide
  have hfinish : ¬ now.instant.compare (window .next).finish = .gt := by
    rw [Option.some.inj (Except.ok.inj ((hwindow .next).1.symm.trans hjuly))]
    decide
  exact ⟨now, _, window, hnow, by decide, hmillis, by decide, by decide,
    fun side => (hwindow side).1, hstart, hfinish, (hrange _ hstart hfinish).2.2 hmillis⟩

/-- Half a millisecond before midnight a moment lies in none of yesterday, today and tomorrow, as
they are seen from the moment itself. -/
theorem not_contains_half_a_millisecond_before_midnight :
    ∃ (now : Moment) (today : Day) (window : Neighbour → Window),
      now.day? = some today ∧ today.civil = ⟨2024, 6, 12⟩ ∧
      InCalendar (today.number - 801) ∧ InCalendar (today.number + 801) ∧
      (∀ side, (day.period side).window? now .sunday = .ok (some (window side))) ∧
      ¬ now.instant.compare (window .last).start = .lt ∧
      ¬ now.instant.compare (window .next).finish = .gt ∧
      ∀ side, ¬ (window side).Contains now.instant := by
  let now : Moment := ⟨⟨1718236799, 999500000, by decide, by decide⟩, ⟨0, by decide⟩⟩
  let window (side : Neighbour) : Window :=
    ⟨⟨1718150400 + 86400 * side.shift, 0, by decide, by cases side <;> decide⟩,
      ⟨1718236799 + 86400 * side.shift, 999000000, by decide, by cases side <;> decide⟩⟩
  refine ⟨now, ⟨19886, by decide⟩, window, rfl, by decide, by decide, by decide, ?_, by decide,
    by decide, ?_⟩
  · intro side
    cases side <;> rfl
  · intro side
    cases side with
    | last | this => exact fun h => h.2 (by decide)
    | next => exact fun h => h.1 (by decide)

end CalendarUnit
end RecordFilter
