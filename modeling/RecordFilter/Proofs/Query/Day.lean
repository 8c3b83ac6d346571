import RecordFilter.Proofs.Calendar.LocalDay
import RecordFilter.Proofs.Query.Denial
import RecordFilter.Proofs.Query.Values

/-!
# Records before, on and after a day

Three verbs place the date of a record: before a day, on it, or after it; a fourth one asks whether
it lies between two days.  They are compiled to comparisons with the first and the last millisecond
of the days on the local clock.  This file says what becomes of this for the records: a date lies
before, on or after a day as its own local day does.

* `Verb.ofPlace` — the three verbs.
* `Query.ofPlace` — what they are compiled to; `Query.accepts_ofPlace_iff` says which records it
  accepts.
* `Condition.accepts_days` — the four verbs, for all values that are read as days.
-/

set_option autoImplicit false

namespace RecordFilter

/-! ## Verbs for days -/

/-- The verb that asks for records before a day, on it or after it. -/
def Verb.ofPlace : Ordering → Verb
  | .lt => dateBefore
  | .eq => dateIs
  | .gt => dateAfter

namespace Query

/-- The query for what lies before a window, in it or after it. -/
def ofPlace (path : String) (window : Window) : Ordering → Query
  | .lt => .field path (.below (.date window.start))
  | .eq => inWindow path window
  | .gt => .field path (.above (.date window.finish))

variable {path : String} {window : Window} {record j : Json} {t : Instant}

/-- A value that is read as an instant is no array, and is tested as it is. -/
theorem anyItem_of_instant? (h : j.instant? = some t) (passes : Json → Bool) :
    anyItem (some j) passes = passes j := by
  cases j with
  | array items => exact nomatch h
  | null | bool b | number n | string s | object members => rfl

/-- What a window holds, and what lies before and after it, for the date of a record. -/
theorem accepts_inWindow_iff (hat : record.at? path = some j) (hdate : j.instant? = some t) :
    (inWindow path window).accepts record = true ↔
      ¬ t.compare window.start = .lt ∧ ¬ t.compare window.finish = .gt := by
  show anyItem (record.at? path) _ = true ↔ _
  rw [hat, anyItem_of_instant? hdate]
  simp only [Operand.isAtMost, Operand.isAtLeast, Operand.compareValue?, hdate, Option.map_some,
    Option.any_some, Bool.and_eq_true]
  cases t.compare window.start <;> cases t.compare window.finish <;> decide

theorem accepts_ofPlace_iff (horder : window.start.compare window.finish = .lt)
    (hat : record.at? path = some j) (hdate : j.instant? = some t) {place : Ordering} :
    (ofPlace path window place).accepts record = true ↔ window.place t = place := by
  cases place with
  | lt =>
    show anyItem (record.at? path) _ = true ↔ _
    rw [hat, anyItem_of_instant? hdate, Window.place_eq_lt_iff]
    simp [Operand.isAbove, Operand.compareValue?, hdate]
  | eq => rw [ofPlace, accepts_inWindow_iff hat hdate, Window.place_eq_eq_iff]
  | gt =>
    show anyItem (record.at? path) _ = true ↔ _
    rw [hat, anyItem_of_instant? hdate, Window.place_eq_gt_iff horder]
    simp [Operand.isBelow, Operand.compareValue?, hdate]

end Query

/-! ## What days are compiled to -/

/-- The window of the day that a value is read as, if the calendar has its two ends. -/
theorem Literal.exists_dayWindow? {offset : Offset} {value : Literal} {day : Day}
    (hday : value.day? offset = .ok (some day)) (hstart : (day.start? offset).isSome)
    (hfinish : (day.finish? offset).isSome) :
    ∃ window, value.dayWindow? offset = .ok (some window) ∧ window.Spans offset ⟨day, day⟩ := by
  obtain ⟨start, hstart⟩ := Option.isSome_iff_exists.1 hstart
  obtain ⟨finish, hfinish⟩ := Option.isSome_iff_exists.1 hfinish
  refine ⟨⟨start, finish⟩, ?_, Window.spans_of_start?_of_finish? hstart hfinish⟩
  rw [dayWindow?, hday]
  show Except.ok (Period.daysWindow? day day offset) = _
  rw [Period.daysWindow?, hstart, hfinish]
  rfl

namespace Verb

variable {settings : Settings} {base field : String} {window : Window}

/-- A value that is read as a day is one that is asked with. -/
theorem filter_single?_of_dayWindow? {value : Literal}
    (hwindow : value.dayWindow? settings.now.offset = .ok (some window)) :
    ((Argument.single value).single?.filter fun value => !value.isBlank) = some value := by
  have hfilled : value.isBlank = false := by
    cases hblank : value.isBlank with
    | false => rfl
    | true => rw [Literal.dayWindow?_of_isBlank hblank] at hwindow; exact nomatch hwindow
  exact Argument.filter_single?_of_not_isBlank hfilled

/-- A verb for one day makes its query of the first and the last millisecond of the day. -/
theorem compilesTo_of_dayWindow? (verb : Verb) (query : String → Operand → Operand → Query)
    (hverb : ∀ path argument, verb.query? settings (Text.trim field) path argument =
      Query.orFault (Query.ofDay? settings.now.offset
        (argument.single?.filter fun value => !value.isBlank) (query path)))
    {value : Literal} (hwindow : value.dayWindow? settings.now.offset = .ok (some window)) :
    verb.CompilesTo settings base field (.single value)
      (.atField base field fun path => query path (.date window.start) (.date window.finish)) := by
  refine compilesTo_atField fun path => ?_
  rw [hverb, filter_single?_of_dayWindow? hwindow, Query.orFault_ofDay?, Option.elim_some, hwindow]
  rfl

/-- A row for a day compiles to what places records before, in or after the window of the day. -/
theorem compilesTo_ofPlace {value : Literal}
    (hwindow : value.dayWindow? settings.now.offset = .ok (some window)) (place : Ordering) :
    (ofPlace place).CompilesTo settings base field (.single value)
      (.atField base field fun path => .ofPlace path window place) := by
  cases place with
  | lt =>
    exact compilesTo_of_dayWindow? dateBefore (fun path start _ => .field path (.below start))
      (fun _ _ => rfl) hwindow
  | eq => exact compilesTo_of_dayWindow? dateIs .inside (fun _ _ => rfl) hwindow
  | gt =>
    exact compilesTo_of_dayWindow? dateAfter (fun path _ finish => .field path (.above finish))
      (fun _ _ => rfl) hwindow

/-- A row for all other days compiles to what lies outside of the window of the day. -/
theorem compilesTo_dateIsNot {value : Literal}
    (hwindow : value.dayWindow? settings.now.offset = .ok (some window)) :
    dateIsNot.CompilesTo settings base field (.single value)
      (.atField base field fun path => .outside path (.date window.start) (.date window.finish)) :=
  compilesTo_of_dayWindow? dateIsNot .outside (fun _ _ => rfl) hwindow

/-- A row for the days between two days compiles to the window from the first millisecond of the one
to the last millisecond of the other. -/
theorem compilesTo_dateBetween {lower upper : Literal} {first last : Window}
    (hlower : lower.dayWindow? settings.now.offset = .ok (some first))
    (hupper : upper.dayWindow? settings.now.offset = .ok (some last)) :
    dateBetween.CompilesTo settings base field (.range (some lower) (some upper))
      (.atField base field fun path => .inWindow path ⟨first.start, last.finish⟩) := by
  refine compilesTo_atField fun path => ?_
  have hdays : Query.daysWindow? settings.now.offset (some (lower, upper)) =
      .ok (some ⟨first.start, last.finish⟩) := by
    simp only [Query.daysWindow?, hlower, hupper]
    rfl
  show Query.orFault (Query.ofDays? path settings.now.offset (some (lower, upper))) = _
  rw [Query.ofDays?_eq_map, hdays]
  rfl

end Verb

namespace Condition

variable {settings : Settings} {base : String} {c : Condition} {window : Window}

theorem value_query_of_compilesTo (hfield : c.isBlank = false) {verb : Verb}
    (query : String → Query)
    (h : verb.CompilesTo settings base c.field c.argument (.atField base c.field query)) :
    ((c.asking verb).query settings base).map Noted.value =
      .ok (query (Path.under base (Text.trim c.field))) := by
  have hquery : (c.asking verb).query settings base = _ := h c.id
  rw [hquery, Query.atField_of_named hfield]
  rfl

/-- A row for a day compiles to what places records before, in or after the window of the day. -/
theorem value_query_ofPlace (hfield : c.isBlank = false) {value : Literal}
    (hargument : c.argument = .single value)
    (hwindow : value.dayWindow? settings.now.offset = .ok (some window)) (place : Ordering) :
    ((c.asking (.ofPlace place)).query settings base).map Noted.value =
      .ok (.ofPlace (Path.under base (Text.trim c.field)) window place) := by
  refine value_query_of_compilesTo hfield (fun path => .ofPlace path window place) ?_
  rw [hargument]
  exact Verb.compilesTo_ofPlace hwindow place

/-- A row for the time between two days compiles to the window from the first millisecond of the one
to the last millisecond of the other. -/
theorem value_query_dateBetween (hfield : c.isBlank = false) {lower upper : Literal}
    (hargument : c.argument = .range (some lower) (some upper)) {first last : Window}
    (hlower : lower.dayWindow? settings.now.offset = .ok (some first))
    (hupper : upper.dayWindow? settings.now.offset = .ok (some last)) :
    ((c.asking .dateBetween).query settings base).map Noted.value =
      .ok (.inWindow (Path.under base (Text.trim c.field)) ⟨first.start, last.finish⟩) := by
  refine value_query_of_compilesTo hfield
    (fun path => .inWindow path ⟨first.start, last.finish⟩) ?_
  rw [hargument]
  exact Verb.compilesTo_dateBetween hlower hupper

/-- **Days place the dates of records by the local calendar.**  Take a row whose value is read as a
day, on the clock of the moment of compiling, and any record with a date at the path of the row.
Exactly one of the three verbs accepts the record.  If the date is not inside of a millisecond, it
is the one that says how its local day compares with the day of the row.  A row for the time between
two days then accepts the record when its local day is one of the days from the first to the last
one; and if the first one is after the last one, it accepts no date at all. -/
theorem accepts_days (settings : Settings) (base : String) {c : Condition}
    (hfield : c.isBlank = false) :
    (∀ (value : Literal) (day : Day), c.argument = .single value →
      value.day? settings.now.offset = .ok (some day) →
      (day.start? settings.now.offset).isSome → (day.finish? settings.now.offset).isSome →
      ∃ asked : Ordering → Query,
        (∀ place, ((c.asking (.ofPlace place)).query settings base).map Noted.value =
          .ok (asked place)) ∧
        ∀ (record j : Json) (t : Instant),
          record.at? (Path.under base (Text.trim c.field)) = some j → j.instant? = some t →
          (∃! place, (asked place).accepts record = true) ∧
          (t.IsWholeMillis → ∀ place, (asked place).accepts record = true ↔
            compare (t.localDay settings.now.offset) day.number = place)) ∧
    ∀ (lower upper : Literal) (first last : Day),
      c.argument = .range (some lower) (some upper) →
      lower.day? settings.now.offset = .ok (some first) →
      upper.day? settings.now.offset = .ok (some last) →
      (∀ day ∈ [first, last],
        (day.start? settings.now.offset).isSome ∧ (day.finish? settings.now.offset).isSome) →
      ∃ asked : Query,
        ((c.asking .dateBetween).query settings base).map Noted.value = .ok asked ∧
        ∀ (record j : Json) (t : Instant),
          record.at? (Path.under base (Text.trim c.field)) = some j → j.instant? = some t →
          (t.IsWholeMillis → (asked.accepts record = true ↔
            first.number ≤ t.localDay settings.now.offset ∧
              t.localDay settings.now.offset ≤ last.number)) ∧
          (last.number < first.number → asked.accepts record = false) := by
  constructor
  · intro value day hargument hday hstart hfinish
    obtain ⟨window, hwindow, hspans⟩ := Literal.exists_dayWindow? hday hstart hfinish
    have horder : window.start.compare window.finish = .lt := hspans.compare_eq_lt (Int.le_refl _)
    refine ⟨.ofPlace (Path.under base (Text.trim c.field)) window,
      value_query_ofPlace hfield hargument hwindow, fun record j t hat hdate => ?_⟩
    have haccepts : ∀ place, (Query.ofPlace (Path.under base (Text.trim c.field)) window
        place).accepts record = true ↔ window.place t = place :=
      fun place => Query.accepts_ofPlace_iff horder hat hdate
    constructor
    · exact ⟨window.place t, (haccepts _).2 rfl, fun place h => ((haccepts place).1 h).symm⟩
    · intro ht place
      rw [haccepts, hspans.place_eq_compare ht]
  · intro lower upper first last hargument hlower hupper hends
    obtain ⟨hfirst, hfirst'⟩ := hends first (by simp)
    obtain ⟨hlast, hlast'⟩ := hends last (by simp)
    obtain ⟨opening, hopening, hspans⟩ := Literal.exists_dayWindow? hlower hfirst hfirst'
    obtain ⟨closing, hclosing, hspans'⟩ := Literal.exists_dayWindow? hupper hlast hlast'
    have hboth : (Window.mk opening.start closing.finish).Spans settings.now.offset
        ⟨first, last⟩ :=
      ⟨hspans.start_seconds, hspans.start_nanos, hspans'.finish_seconds, hspans'.finish_nanos⟩
    refine ⟨_, value_query_dateBetween hfield hargument hopening hclosing,
      fun record j t hat hdate => ⟨fun ht => ?_, fun hreversed => ?_⟩⟩
    · rw [Query.accepts_inWindow_iff hat hdate, hboth.compare_start_iff,
        hboth.compare_finish_iff_of_isWholeMillis ht, Int.not_lt, Int.not_lt]
    · rw [← Bool.not_eq_true, Query.accepts_inWindow_iff hat hdate, hboth.compare_start_iff,
        hboth.compare_finish_iff]
      dsimp only
      omega

/-- On a clock five hours behind universal time, a record of the early morning of 2 June belongs to
the evening of 1 June: it lies on that day, and between it and 3 June. -/
theorem accepts_days_evening :
    ∃ (settings : Settings) (day last : Day) (t : Instant),
      (Literal.text "2024-06-01").day? settings.now.offset = .ok (some day) ∧
      (Literal.text "2024-06-03").day? settings.now.offset = .ok (some last) ∧
      Json.instant? (.string "2024-06-02T03:30:00.250Z") = some t ∧ t.IsWholeMillis ∧
      (∃ asked : Ordering → Query,
        (∀ place, ((asking ⟨"c", "at", .blank, .single (.text "2024-06-01")⟩
          (.ofPlace place)).query settings "").map Noted.value = .ok (asked place)) ∧
        (∃! place, (asked place).accepts
          (.object [("at", .string "2024-06-02T03:30:00.250Z")]) = true) ∧
        (asked .eq).accepts (.object [("at", .string "2024-06-02T03:30:00.250Z")]) = true) ∧
      ∃ asked : Query,
        ((asking ⟨"c", "at", .blank, .range (some (.text "2024-06-01")) (some (.text "2024-06-03"))⟩
          .dateBetween).query settings "").map Noted.value = .ok asked ∧
        asked.accepts (.object [("at", .string "2024-06-02T03:30:00.250Z")]) = true := by
  let settings : Settings := ⟨⟨⟨0, 0, by decide, by decide⟩, ⟨-18000, by decide⟩⟩, .default, none⟩
  have hday : (Literal.text "2024-06-01").day? settings.now.offset =
      .ok (some ⟨19875, by decide⟩) := by cbv
  have hlast : (Literal.text "2024-06-03").day? settings.now.offset =
      .ok (some ⟨19877, by decide⟩) := by cbv
  have hdate : Json.instant? (.string "2024-06-02T03:30:00.250Z") =
      some ⟨1717299000, 250000000, by decide, by decide⟩ := rfl
  have hmillis : Instant.IsWholeMillis ⟨1717299000, 250000000, by decide, by decide⟩ :=
    ⟨by decide, by decide⟩
  refine ⟨settings, _, _, _, hday, hlast, hdate, hmillis, ?_, ?_⟩
  · obtain ⟨hsingle, -⟩ := accepts_days settings ""
      (rfl : isBlank ⟨"c", "at", .blank, .single (.text "2024-06-01")⟩ = false)
    obtain ⟨asked, hasked, hrecord⟩ := hsingle _ _ rfl hday rfl rfl
    obtain ⟨hunique, hplace⟩ := hrecord (.object [("at", .string "2024-06-02T03:30:00.250Z")])
      (.string "2024-06-02T03:30:00.250Z") _ rfl hdate
    exact ⟨asked, hasked, hunique, (hplace hmillis .eq).2 (by decide)⟩
  · obtain ⟨-, hrange⟩ := accepts_days settings "" (rfl : isBlank ⟨"c", "at", .blank,
      .range (some (.text "2024-06-01")) (some (.text "2024-06-03"))⟩ = false)
    obtain ⟨asked, hasked, hrecord⟩ := hrange _ _ _ _ rfl hday hlast (by decide)
    obtain ⟨hbetween, -⟩ := hrecord (.object [("at", .string "2024-06-02T03:30:00.250Z")])
      (.string "2024-06-02T03:30:00.250Z") _ rfl hdate
    exact ⟨asked, hasked, (hbetween hmillis).2 (by decide)⟩

end Condition
end RecordFilter
