import RecordFilter.Proofs.Query.CalendarPeriod

/-!
# Rolling periods

A rolling period goes from the beginning of a day in the past to the moment it is asked at.  This
file says which dates lie in it: those that are not after the moment, and whose own local day is not
before that day.  So of two rolling periods that are asked for at one moment the longer one accepts
all that the shorter one accepts, also where a record has several dates.

* `Period.window?_of_rollingDays?` — the window of a rolling period.
* `Query.accepts_inWindow_of_earlier` — a window that begins earlier accepts more.
* `Verb.compilesTo_rollingPeriod` — what the rows for rolling periods accept.
-/

set_option autoImplicit false

namespace RecordFilter

/-! ## The window of a rolling period -/

/-- Each count of days of a rolling period has one, and its key says how many days they are. -/
theorem Period.exists_rolling {days : Nat} (hdays : days ∈ [7, 30, 90, 365]) :
    ∃ p : Period, p.rollingDays? = some (days : Int) ∧
      p.key = "last_" ++ toString days ++ "_days" := by
  simp only [List.mem_cons, List.not_mem_nil, or_false] at hdays
  rcases hdays with rfl | rfl | rfl | rfl
  · exact ⟨last7Days, rfl, by decide +kernel⟩
  · exact ⟨last30Days, rfl, by decide +kernel⟩
  · exact ⟨last90Days, rfl, by decide +kernel⟩
  · exact ⟨last365Days, rfl, by decide +kernel⟩

/-- A rolling period goes from the beginning of a day to the moment itself. -/
theorem Period.window?_of_rollingDays? {p : Period} {days : Int} {now : Moment} {today first : Day}
    {start : Instant} (hdays : p.rollingDays? = some days) (htoday : now.day? = some today)
    (hfirst : first.number = today.number - days) (hstart : first.start? now.offset = some start)
    (weekStart : Weekday) : p.window? now weekStart = .ok (some ⟨start, now.instant⟩) := by
  have hplus : today.plus? (-days) = some first := Day.plus?_of_number hfirst
  rw [window?_eq htoday]
  simp only [windowOn?, hdays, hplus, hstart, Option.bind_eq_bind, Option.bind_some,
    Option.pure_def]

/-! ## Windows that begin earlier -/

theorem Operand.isAtMost_date_iff {start : Instant} {j : Json} :
    (Operand.date start).isAtMost j = true ↔
      ∃ t, j.instant? = some t ∧ ¬ t.compare start = .lt := by
  simp only [isAtMost, compareValue?, Option.any_map, Option.any_eq_true]
  refine exists_congr fun t => and_congr_right fun _ => ?_
  cases t.compare start <;> decide

/-- **A window that begins earlier and ends at the same time accepts more**, also of the records
with several dates. -/
theorem Query.accepts_inWindow_of_earlier {path : String} {start earlier finish : Instant}
    (hearlier : ¬ start.compare earlier = .lt) {record : Json}
    (h : (inWindow path ⟨start, finish⟩).accepts record = true) :
    (inWindow path ⟨earlier, finish⟩).accepts record = true := by
  refine anyItem_of_imp (fun j hj => ?_) h
  rw [Bool.and_eq_true, Operand.isAtMost_date_iff] at hj ⊢
  obtain ⟨⟨t, ht, hstart⟩, hfinish⟩ := hj
  refine ⟨⟨t, ht, ?_⟩, hfinish⟩
  rw [Instant.compare_eq_lt_iff] at hstart hearlier ⊢
  dsimp only at hstart ⊢
  omega

/-! ## Rows for rolling periods -/

namespace Verb

/-- **Rolling periods are exact, and the longer ones accept more.**  Take a moment whose local date
is more than 800 days from both ends of the calendar.  The rows with the keys of the four rolling
periods compile, and leave no note.  A record with one date at the path of the field is accepted
when its date is not after the moment and its local day at most so many days before the one of the
moment.  A record that is accepted for a number of days is accepted for any greater one, whatever
the record has at the field. -/
theorem compilesTo_rollingPeriod (settings : Settings) (base field : String) {today : Day}
    (htoday : settings.now.day? = some today) (hlow : InCalendar (today.number - 801))
    (hhigh : InCalendar (today.number + 801)) :
    ∃ asked : Nat → Query, ∀ days ∈ [7, 30, 90, 365],
      dateIsRelative.CompilesTo settings base field
        (.relative ("last_" ++ toString days ++ "_days")) (asked days) ∧
      (Text.isBlank field = false → ∀ (record j : Json) (t : Instant),
        record.at? (Path.under base (Text.trim field)) = some j → j.instant? = some t →
        ((asked days).accepts record = true ↔
          ¬ t.compare settings.now.instant = .gt ∧
            today.number - days ≤ t.localDay settings.now.offset)) ∧
      ∀ more ∈ [7, 30, 90, 365], days ≤ more → ∀ record : Json,
        (asked days).accepts record = true → (asked more).accepts record = true := by
  -- the first day of each period begins on the clock of the moment; longer ones do not matter
  have hstart : ∀ days : Nat, ∃ start : Instant, days ≤ 365 →
      ∃ first : Day, first.number = today.number - days ∧
        first.start? settings.now.offset = some start ∧
        start.seconds + settings.now.offset.seconds = (today.number - days) * 86400 ∧
        start.nanos = 0 := by
    intro days
    by_cases hdays : days ≤ 365
    · rw [InCalendar] at hlow hhigh
      have hfirst : InCalendar (today.number - days) := by rw [InCalendar]; omega
      have hbefore : InCalendar (today.number - days - 1) := by rw [InCalendar]; omega
      obtain ⟨start, hstart⟩ := @Day.exists_start? ⟨_, hfirst⟩ hbefore settings.now.offset
      exact ⟨start, fun _ => ⟨⟨_, hfirst⟩, rfl, hstart⟩⟩
    · exact ⟨settings.now.instant, fun h => absurd h hdays⟩
  choose start hstart using hstart
  have hle : ∀ days ∈ [7, 30, 90, 365], days ≤ 365 := by decide
  refine ⟨fun days => .atField base field fun path =>
    .inWindow path ⟨start days, settings.now.instant⟩, fun days hdays => ?_⟩
  obtain ⟨first, hfirst, hfirst', hseconds, hnanos⟩ := hstart days (hle days hdays)
  refine ⟨?_, fun hfield record j t hat hdate => ?_, fun more hmore hdays' record haccepts => ?_⟩
  · obtain ⟨p, hp, hkey⟩ := Period.exists_rolling hdays
    rw [← hkey]
    exact compilesTo_dateIsRelative p.ofKey?_key
      (p.window?_of_rollingDays? hp htoday hfirst hfirst' settings.options.weekStart)
  · dsimp only
    rw [Query.atField_of_named hfield, Query.accepts_inWindow_iff hat hdate,
      Instant.compare_dayStart_iff hseconds hnanos, Int.not_lt]
    exact And.comm
  · obtain ⟨-, -, -, hseconds', hnanos'⟩ := hstart more (hle more hmore)
    have hearlier : ¬ (start days).compare (start more) = .lt := by
      rw [Instant.compare_eq_lt_iff]
      omega
    cases hfield : Text.isBlank field with
    | false =>
      simp only [Query.atField_of_named hfield] at haccepts ⊢
      exact Query.accepts_inWindow_of_earlier hearlier haccepts
    | true => simp [Query.atField, hfield, Query.accepts]

/-- In the afternoon of 31 March 2024, on a clock that is five and a half hours ahead, the first
instant of 1 March there is in the last 30 days, and so in the last 365, but not in the last 7. -/
theorem compilesTo_rollingPeriod_end_of_march :
    ∃ (settings : Settings) (today : Day) (week month year : Query),
      settings.now.day? = some today ∧ today.civil = ⟨2024, 3, 31⟩ ∧
      InCalendar (today.number - 801) ∧ InCalendar (today.number + 801) ∧
      dateIsRelative.CompilesTo settings "" "at" (.relative "last_7_days") week ∧
      dateIsRelative.CompilesTo settings "" "at" (.relative "last_30_days") month ∧
      dateIsRelative.CompilesTo settings "" "at" (.relative "last_365_days") year ∧
      week.accepts (.object [("at", .string "2024-02-29T18:30:00Z")]) = false ∧
      month.accepts (.object [("at", .string "2024-02-29T18:30:00Z")]) = true ∧
      year.accepts (.object [("at", .string "2024-02-29T18:30:00Z")]) = true := by
  let settings : Settings :=
    ⟨⟨⟨1711875600, 0, by decide, by decide⟩, ⟨19800, by decide⟩⟩, .default, none⟩
  have htoday : settings.now.day? = some ⟨19813, by decide⟩ := rfl
  obtain ⟨asked, hasked⟩ :=
    compilesTo_rollingPeriod settings "" "at" htoday (by decide) (by decide)
  have hdate : Json.instant? (.string "2024-02-29T18:30:00Z") =
      some ⟨1709231400, 0, by decide, by decide⟩ := rfl
  have hat : (Json.object [("at", .string "2024-02-29T18:30:00Z")]).at?
      (Path.under "" (Text.trim "at")) = some (.string "2024-02-29T18:30:00Z") := rfl
  obtain ⟨hweek, hrecord, -⟩ := hasked 7 (by decide)
  obtain ⟨hmonth, hrecord', hlonger⟩ := hasked 30 (by decide)
  obtain ⟨hyear, -, -⟩ := hasked 365 (by decide)
  have hfar : (asked 7).accepts (.object [("at", .string "2024-02-29T18:30:00Z")]) = false := by
    rw [← Bool.not_eq_true, hrecord (by decide) _ _ _ hat hdate]
    decide
  have hnear : (asked 30).accepts (.object [("at", .string "2024-02-29T18:30:00Z")]) = true :=
    (hrecord' (by decide) _ _ _ hat hdate).2 (by decide)
  exact ⟨settings, _, asked 7, asked 30, asked 365, htoday, by decide, by decide, by decide, hweek,
    hmonth, hyear, hfar, hnear, hlonger 365 (by decide) (by decide) _ hnear⟩

end Verb
end RecordFilter
