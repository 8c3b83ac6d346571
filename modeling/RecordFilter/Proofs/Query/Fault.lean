import RecordFilter.Proofs.Calendar.Range
import RecordFilter.Proofs.Fault
import RecordFilter.Proofs.Query.Join

/-!
# When compiling has a fault

Compiling is meant to drop what it cannot use, yet it has a fault where it asks for a local date
that the calendar does not have.  This file says exactly when that is.

* `Instant.IsOffCalendar` — the calendar has no local date for an instant.  The instant itself is in
  the calendar, so this takes an offset that leads over one of its ends.
* `Literal.IsOffCalendar` — a value counts the milliseconds of such an instant.  A text never names
  one (`Moment.inCalendar_of_ofText?`).
* `Condition.AsksOffCalendar` — a row asks for such a date: of its values, or of the moment of
  compiling.
* `Condition.query_eq_error_iff`, `Group.query_eq_error_iff` — a row has a fault when it asks, and a
  tree when one of its rows does.
* `compiles_iff` — the two for rows, groups, filters and the queries of whole views.
-/

set_option autoImplicit false

namespace RecordFilter

/-! ## Asking for a date that is not there -/

/-- Whether the calendar has no date for an instant on a clock with this offset. -/
def Instant.IsOffCalendar (t : Instant) (offset : Offset) : Prop :=
  ¬ InCalendar ((t.seconds + offset.seconds) / 86400)

/-- Whether a value counts the milliseconds of an instant that has no date on a clock with this
offset. -/
def Literal.IsOffCalendar (offset : Offset) : Literal → Prop
  | .number n => ∃ t, n.signedWord?.bind Instant.ofMillis? = some t ∧ t.IsOffCalendar offset
  | .bool _ | .text _ | .list _ => False

/-- Whether a verb asks for a date that the calendar does not have.  The second end of a range of
days is looked at only if the first one has a first and a last millisecond. -/
def Argument.AsksOffCalendar (now : Moment) (argument : Argument) : Verb → Prop
  | .dateIs | .dateIsNot | .dateBefore | .dateAfter =>
    ∃ value, argument.single? = some value ∧ value.IsOffCalendar now.offset
  | .dateBetween =>
    ∃ lower upper, argument.ends? = some (lower, upper) ∧
      (lower.IsOffCalendar now.offset ∨
        (∃ window, lower.dayWindow? now.offset = .ok (some window)) ∧
          upper.IsOffCalendar now.offset)
  | .dateThisWeek | .dateThisMonth | .dateThisYear => now.instant.IsOffCalendar now.offset
  | .dateIsRelative =>
    ∃ key period, argument.key? = some key ∧ Period.ofKey? key = some period ∧
      now.instant.IsOffCalendar now.offset
  | .contains | .notContains | .startsWith | .endsWith | .equals | .notEquals | .isEmpty
  | .isNotEmpty | .greaterThan | .greaterThanOrEqual | .lessThan | .lessThanOrEqual | .between
  | .notBetween | .isTrue | .isFalse | .isIn | .isNotIn => False

/-- Whether the days or the period of a verb have no window: they cannot be read, or calculating
with them leaves the calendar. -/
def Argument.HasNoWindow (settings : Settings) (argument : Argument) : Verb → Prop
  | .dateIs | .dateIsNot | .dateBefore | .dateAfter =>
    ∃ value, argument.single? = some value ∧
      value.dayWindow? settings.now.offset = .ok none
  | .dateBetween =>
    ∃ lower upper, argument.ends? = some (lower, upper) ∧
      (lower.dayWindow? settings.now.offset = .ok none ∨
        upper.dayWindow? settings.now.offset = .ok none)
  | .dateThisWeek => Period.thisWeek.window? settings.now settings.options.weekStart = .ok none
  | .dateThisMonth => Period.thisMonth.window? settings.now settings.options.weekStart = .ok none
  | .dateThisYear => Period.thisYear.window? settings.now settings.options.weekStart = .ok none
  | .dateIsRelative =>
    ∃ key notes, argument.key? = some key ∧
      Period.windowOfKey? key settings.now settings.options.weekStart = .ok ⟨none, notes⟩
  | .contains | .notContains | .startsWith | .endsWith | .equals | .notEquals | .isEmpty
  | .isNotEmpty | .greaterThan | .greaterThanOrEqual | .lessThan | .lessThanOrEqual | .between
  | .notBetween | .isTrue | .isFalse | .isIn | .isNotIn => False

/-- Whether a row asks for a date that the calendar does not have.  A row without a field asks for
nothing. -/
def Condition.AsksOffCalendar (settings : Settings) (c : Condition) : Prop :=
  c.isBlank = false ∧
    ∃ verb, c.operator = .known verb ∧ c.argument.AsksOffCalendar settings.now verb

/-- Whether the days or the period of a row have no window. -/
def Condition.HasNoWindow (settings : Settings) (c : Condition) : Prop :=
  ∃ verb, c.operator = .known verb ∧ c.argument.HasNoWindow settings verb

/-! ## Dates of values and of periods -/

theorem Moment.today_eq_error_iff {m : Moment} :
    m.today = .error .offCalendar ↔ m.instant.IsOffCalendar m.offset := by
  rw [today, day?, Day.ofNumber?, localSeconds, Instant.IsOffCalendar]
  by_cases hin : InCalendar ((m.instant.seconds + m.offset.seconds) / 86400)
  · rw [dif_pos hin]
    exact iff_of_false (by simp) fun hout => hout hin
  · rw [dif_neg hin]
    exact iff_of_true rfl hin

namespace Literal

theorem day?_eq_error_iff {offset : Offset} {value : Literal} :
    value.day? offset = .error .offCalendar ↔ value.IsOffCalendar offset := by
  cases value with
  | bool b => exact iff_of_false nofun id
  | list items => exact iff_of_false nofun id
  | number n =>
    rw [day?, IsOffCalendar]
    cases n.signedWord?.bind Instant.ofMillis? with
    | none => exact iff_of_false nofun fun ⟨_, ht, _⟩ => nomatch ht
    | some t =>
      rw [OffCalendar.map_eq_error_iff, Moment.today_eq_error_iff]
      exact ⟨fun h => ⟨t, rfl, h⟩, fun ⟨u, hu, h⟩ => Option.some.inj hu ▸ h⟩
  | text s =>
    refine iff_of_false ?_ id
    rw [day?, Day.ofAnyText?]
    cases hm : Moment.ofText? (Text.trim s) with
    | none => cases Day.ofText? (Text.trim s) <;> exact nofun
    | some m =>
      rw [OffCalendar.map_eq_error_iff, Moment.today_eq_error_iff]
      exact fun hout => hout (Moment.inCalendar_of_ofText? hm offset)

theorem dayWindow?_eq_error_iff {offset : Offset} {value : Literal} :
    value.dayWindow? offset = .error .offCalendar ↔ value.IsOffCalendar offset := by
  rw [dayWindow?, OffCalendar.map_eq_error_iff, day?_eq_error_iff]

/-- A blank value counts no milliseconds. -/
theorem isBlank_eq_false_of_isOffCalendar {offset : Offset} {value : Literal}
    (h : value.IsOffCalendar offset) : value.isBlank = false := by
  cases value with
  | number n => rfl
  | bool b => exact h.elim
  | text s => exact h.elim
  | list items => exact h.elim

end Literal

theorem Period.window?_eq_error_iff {p : Period} {now : Moment} {weekStart : Weekday} :
    p.window? now weekStart = .error .offCalendar ↔ now.instant.IsOffCalendar now.offset := by
  rw [window?, ← Moment.today_eq_error_iff]
  cases now.today with
  | error fault => cases fault; exact iff_of_true rfl rfl
  | ok today => exact iff_of_false nofun nofun

theorem Period.windowOfKey?_eq_error_iff {key : String} {now : Moment} {weekStart : Weekday} :
    windowOfKey? key now weekStart = .error .offCalendar ↔
      ∃ period, ofKey? key = some period ∧ now.instant.IsOffCalendar now.offset := by
  rw [windowOfKey?]
  cases ofKey? key with
  | none => exact iff_of_false nofun fun ⟨_, hp, _⟩ => nomatch hp
  | some p =>
    dsimp only
    rw [← @window?_eq_error_iff p now weekStart]
    cases p.window? now weekStart with
    | error fault => cases fault; exact iff_of_true rfl ⟨p, rfl, rfl⟩
    | ok found => exact iff_of_false nofun fun ⟨_, _, h⟩ => nomatch h

/-! ## Queries of verbs -/

namespace Query

theorem ofDay?_eq_error_iff {offset : Offset} {value : Option Literal}
    {query : Operand → Operand → Query} :
    ofDay? offset value query = .error .offCalendar ↔
      ∃ v, value = some v ∧ v.IsOffCalendar offset := by
  cases value with
  | none => exact iff_of_false nofun fun ⟨_, hv, _⟩ => nomatch hv
  | some v =>
    rw [ofDay?, OffCalendar.map_eq_error_iff, Literal.dayWindow?_eq_error_iff]
    exact ⟨fun h => ⟨v, rfl, h⟩, fun ⟨w, hw, h⟩ => Option.some.inj hw ▸ h⟩

theorem ofDays?_eq_error_iff {path : String} {offset : Offset}
    {ends : Option (Literal × Literal)} :
    ofDays? path offset ends = .error .offCalendar ↔
      ∃ lower upper, ends = some (lower, upper) ∧
        (lower.IsOffCalendar offset ∨
          (∃ window, lower.dayWindow? offset = .ok (some window)) ∧
            upper.IsOffCalendar offset) := by
  rcases ends with _ | ⟨lower, upper⟩
  · exact iff_of_false nofun fun ⟨_, _, hends, _⟩ => nomatch hends
  have hends : (∃ l u, some (lower, upper) = some (l, u) ∧ (l.IsOffCalendar offset ∨
      (∃ window, l.dayWindow? offset = .ok (some window)) ∧ u.IsOffCalendar offset)) ↔
      (lower.dayWindow? offset = .error .offCalendar ∨
        (∃ window, lower.dayWindow? offset = .ok (some window)) ∧
          upper.dayWindow? offset = .error .offCalendar) := by
    rw [Literal.dayWindow?_eq_error_iff, Literal.dayWindow?_eq_error_iff]
    exact ⟨fun ⟨l, u, h, hor⟩ => by cases h; exact hor, fun h => ⟨lower, upper, rfl, h⟩⟩
  rw [hends, ofDays?]
  cases lower.dayWindow? offset with
  | error fault => cases fault; exact iff_of_true rfl (Or.inl rfl)
  | ok first =>
    cases first with
    | none => exact iff_of_false nofun (by rintro (h | ⟨⟨_, h⟩, -⟩) <;> exact nomatch h)
    | some window =>
      cases upper.dayWindow? offset with
      | error fault => cases fault; exact iff_of_true rfl (Or.inr ⟨⟨window, rfl⟩, rfl⟩)
      | ok last => exact iff_of_false nofun (by rintro (h | ⟨-, h⟩) <;> exact nomatch h)

theorem ofPeriod?_eq_error_iff {path : String} {settings : Settings} {period : Period} :
    ofPeriod? path settings period = .error .offCalendar ↔
      settings.now.instant.IsOffCalendar settings.now.offset := by
  rw [ofPeriod?, OffCalendar.map_eq_error_iff, Period.window?_eq_error_iff]

theorem ofPeriodKey?_eq_error_iff {path : String} {settings : Settings} {key : Option String} :
    ofPeriodKey? path settings key = .error .offCalendar ↔
      ∃ k period, key = some k ∧ Period.ofKey? k = some period ∧
        settings.now.instant.IsOffCalendar settings.now.offset := by
  cases key with
  | none => exact iff_of_false nofun fun ⟨_, _, hk, _⟩ => nomatch hk
  | some k =>
    rw [ofPeriodKey?, OffCalendar.map_eq_error_iff, Period.windowOfKey?_eq_error_iff]
    constructor
    · rintro ⟨p, h⟩
      exact ⟨k, p, rfl, h⟩
    · rintro ⟨_, p, hk, h⟩
      exact ⟨p, Option.some.inj hk ▸ h⟩

theorem orFault_eq_error_iff {query : Except OffCalendar (Option Query)} :
    orFault query = .error .offCalendar ↔ query = .error .offCalendar :=
  OffCalendar.map_eq_error_iff

end Query

/-- A value that names no instant is not looked at further, so a blank one makes no difference. -/
theorem Argument.asksOffCalendar_single_iff {argument : Argument} {offset : Offset} :
    (∃ v, (argument.single?.filter fun value => !value.isBlank) = some v ∧
      v.IsOffCalendar offset) ↔
      ∃ v, argument.single? = some v ∧ v.IsOffCalendar offset := by
  constructor
  · rintro ⟨v, hv, h⟩
    exact ⟨v, (Option.filter_eq_some_iff.1 hv).1, h⟩
  · rintro ⟨v, hv, h⟩
    refine ⟨v, Option.filter_eq_some_iff.2 ⟨hv, ?_⟩, h⟩
    rw [Literal.isBlank_eq_false_of_isOffCalendar h]
    rfl

theorem Verb.query?_eq_error_iff {settings : Settings} {field path : String} {argument : Argument}
    {verb : Verb} :
    verb.query? settings field path argument = .error .offCalendar ↔
      argument.AsksOffCalendar settings.now verb := by
  cases verb
  case dateIs | dateIsNot | dateBefore | dateAfter =>
    rw [query?, Query.orFault_eq_error_iff, Query.ofDay?_eq_error_iff]
    exact Argument.asksOffCalendar_single_iff
  case dateBetween =>
    rw [query?, Query.orFault_eq_error_iff, Query.ofDays?_eq_error_iff]
    exact Iff.rfl
  case dateThisWeek | dateThisMonth | dateThisYear =>
    rw [query?, Query.orFault_eq_error_iff, Query.ofPeriod?_eq_error_iff]
    exact Iff.rfl
  case dateIsRelative => exact Query.ofPeriodKey?_eq_error_iff
  -- every other verb is compiled without looking at the calendar
  all_goals exact iff_of_false nofun id

/-! ## Windows that are not there -/

namespace Query

theorem ofDay?_eq_none {offset : Offset} {value : Option Literal}
    {query : Operand → Operand → Query}
    (h : ∀ v, value = some v → v.dayWindow? offset = .ok none) :
    ofDay? offset value query = .ok none := by
  cases value with
  | none => rfl
  | some v => rw [ofDay?, h v rfl]; rfl

theorem ofDays?_eq_none {path : String} {offset : Offset} {lower upper : Literal}
    {found : Option Query}
    (hwindow : lower.dayWindow? offset = .ok none ∨ upper.dayWindow? offset = .ok none)
    (h : ofDays? path offset (some (lower, upper)) = .ok found) : found = none := by
  rw [ofDays?] at h
  rcases hwindow with hlower | hupper
  · rw [hlower] at h
    exact (Except.ok.inj h).symm
  · rw [hupper] at h
    cases hlower : lower.dayWindow? offset with
    | error fault => rw [hlower] at h; exact nomatch h
    | ok first =>
      rw [hlower] at h
      cases first with
      | none => exact (Except.ok.inj h).symm
      | some window => exact (Except.ok.inj h).symm

theorem ofPeriod?_eq_none {path : String} {settings : Settings} {period : Period}
    (h : period.window? settings.now settings.options.weekStart = .ok none) :
    ofPeriod? path settings period = .ok none := by
  rw [ofPeriod?, h]
  rfl

end Query

theorem Verb.value_query?_eq_none {settings : Settings} {field path : String}
    {argument : Argument} {verb : Verb} (hwindow : argument.HasNoWindow settings verb)
    {found : Noted (Option Query)} (h : verb.query? settings field path argument = .ok found) :
    found.value = none := by
  -- the queries of days and periods are found without a note
  have hquiet : ∀ query : Except OffCalendar (Option Query), query = .ok none →
      Query.orFault query = .ok found → found.value = none := by
    rintro query rfl hfound
    exact congrArg Noted.value (Except.ok.inj hfound).symm
  cases verb
  case dateIs | dateIsNot | dateBefore | dateAfter =>
    obtain ⟨value, hvalue, hday⟩ := hwindow
    refine hquiet _ (Query.ofDay?_eq_none fun v hv => ?_) h
    rw [hvalue, Option.filter_eq_some_iff, Option.some.injEq] at hv
    exact hv.1 ▸ hday
  case dateBetween =>
    obtain ⟨lower, upper, hends, hdays⟩ := hwindow
    cases hq : Query.ofDays? path settings.now.offset argument.ends? with
    | error fault =>
      have hfault : Query.orFault (Query.ofDays? path settings.now.offset argument.ends?) =
          .ok found := h
      rw [hq] at hfault
      exact nomatch hfault
    | ok q =>
      have hnone : q = none := Query.ofDays?_eq_none hdays (hends ▸ hq)
      exact hquiet _ (hnone ▸ hq) h
  case dateThisWeek | dateThisMonth | dateThisYear =>
    exact hquiet _ (Query.ofPeriod?_eq_none hwindow) h
  case dateIsRelative =>
    obtain ⟨key, notes, hkey, hperiod⟩ := hwindow
    have hfound : Query.ofPeriodKey? path settings argument.key? = .ok found := h
    rw [hkey, Query.ofPeriodKey?, hperiod] at hfound
    exact congrArg Noted.value (Except.ok.inj hfound).symm
  all_goals exact hwindow.elim

/-! ## Rows and trees -/

theorem Operator.isBlank_known (verb : Verb) : (Operator.known verb).isBlank = false := by
  cases verb <;> rfl

/-- **A row has a fault exactly when it asks for a date that the calendar does not have.** -/
theorem Condition.query_eq_error_iff {settings : Settings} {base : String} {c : Condition} :
    c.query settings base = .error .offCalendar ↔ c.AsksOffCalendar settings := by
  rw [query, AsksOffCalendar]
  cases hblank : c.isBlank with
  | true => exact iff_of_false nofun fun h => nomatch h.1
  | false =>
    cases hoperator : c.operator with
    | unknown key =>
      refine iff_of_false ?_ fun ⟨_, _, hverb, _⟩ => nomatch hverb
      split <;> exact nofun
    | known verb =>
      rw [Bool.false_or, Operator.isBlank_known, if_neg Bool.false_ne_true]
      dsimp only
      rw [OffCalendar.map_eq_error_iff, Verb.query?_eq_error_iff]
      exact ⟨fun h => ⟨rfl, verb, rfl, h⟩, fun ⟨_, v, hv, h⟩ => Operator.known.inj hv ▸ h⟩

/-- A row whose days or period have no window constrains nothing. -/
theorem Condition.value_query_of_hasNoWindow {settings : Settings} {base : String} {c : Condition}
    (hwindow : c.HasNoWindow settings) {found : Noted Query}
    (h : c.query settings base = .ok found) : found.value = .everything := by
  obtain ⟨verb, hverb, hargument⟩ := hwindow
  rw [query, hverb] at h
  split at h
  · exact congrArg Noted.value (Except.ok.inj h).symm
  · dsimp only at h
    cases hq : verb.query? settings (Text.trim c.field)
        (Path.under base (Text.trim c.field)) c.argument with
    | error fault => rw [hq] at h; exact nomatch h
    | ok q =>
      rw [hq] at h
      obtain rfl := Except.ok.inj h
      dsimp only
      rw [Verb.value_query?_eq_none hargument hq]

theorem Condition.queries_eq_error_iff {settings : Settings} {base : String}
    {conditions : List Condition} :
    Condition.queries settings base conditions = .error .offCalendar ↔
      ∃ c ∈ conditions, c.AsksOffCalendar settings := by
  induction conditions with
  | nil => exact iff_of_false nofun fun ⟨_, hc, _⟩ => nomatch hc
  | cons c rest ih =>
    rw [Condition.queries, OffCalendar.both_eq_error_iff, query_eq_error_iff, ih]
    simp only [List.mem_cons, exists_eq_or_imp]

namespace Group

mutual

/-- **A group has a fault exactly when one of its rows asks for a date that the calendar does not
have**, at any depth. -/
theorem query_eq_error_iff {settings : Settings} {base : String} : ∀ {g : Group},
    g.query settings base = .error .offCalendar ↔ ∃ c ∈ g.rows, c.AsksOffCalendar settings
  | ⟨_, _, conditions, groups⟩ => by
    rw [query, OffCalendar.both_eq_error_iff, Condition.queries_eq_error_iff,
      queries_eq_error_iff, rows]
    simp only [List.mem_append, or_and_right, exists_or]

theorem queries_eq_error_iff {settings : Settings} {base : String} : ∀ {groups : List Group},
    queries settings base groups = .error .offCalendar ↔
      ∃ c ∈ rowsOf groups, c.AsksOffCalendar settings
  | [] => iff_of_false nofun fun ⟨_, hc, _⟩ => nomatch hc
  | g :: rest => by
    rw [queries, OffCalendar.both_eq_error_iff, query_eq_error_iff, queries_eq_error_iff, rowsOf]
    simp only [List.mem_append, or_and_right, exists_or]

end

end Group

/-! ## Filters and views -/

theorem Filter.query_eq_error_iff {settings : Settings} {f : Filter} :
    f.query settings = .error .offCalendar ↔ ∃ c ∈ f.rows, c.AsksOffCalendar settings := by
  rw [Filter.query, rows, ← Group.queries_eq_error_iff]
  exact OffCalendar.map_eq_error_iff

/-- The blank row that an empty list of rows is shown with asks for no date. -/
theorem SavedFilter.exists_asksOffCalendar_iff {settings : Settings} {fresh : FreshIds}
    {saved : SavedFilter} :
    (∃ c ∈ (saved.toFilter fresh).rows, c.AsksOffCalendar settings) ↔
      ∃ c ∈ saved.rows, c.AsksOffCalendar settings := by
  cases saved with
  | advanced filter => exact Iff.rfl
  | simple conditions =>
    cases conditions with
    | cons c rest => simp [toFilter, Filter.ofRows, Filter.rows, Group.rowsOf, Group.rows, rows]
    | nil =>
      refine iff_of_false ?_ fun ⟨_, hc, _⟩ => nomatch hc
      rintro ⟨c, hc, hblank, -⟩
      obtain rfl : c = .blank fresh.row := by
        simpa [toFilter, Filter.ofRows, Filter.rows, Group.rowsOf, Group.rows] using hc
      exact nomatch hblank

theorem SavedFilter.query_eq_error_iff {settings : Settings} {fresh : FreshIds}
    {saved : SavedFilter} {text : String} {fields : List String} :
    saved.queryWithSearch settings fresh text fields = .error .offCalendar ↔
      ∃ c ∈ saved.rows, c.AsksOffCalendar settings := by
  rw [← exists_asksOffCalendar_iff, ← Filter.query_eq_error_iff]
  exact OffCalendar.map_eq_error_iff

/-- **Compiling returns a query exactly when no row asks for a date that the calendar does not
have.**  This is so of rows, of groups and of filters at any depth, and of the queries of views.
Where it returns, a row whose days or period have no window is dropped like any other row that is of
no use. -/
theorem compiles_iff (settings : Settings) :
    (∀ (base : String) (c : Condition),
      (∃ found, c.query settings base = .ok found) ↔ ¬ c.AsksOffCalendar settings) ∧
    (∀ (base : String) (g : Group),
      (∃ found, g.query settings base = .ok found) ↔ ∀ c ∈ g.rows, ¬ c.AsksOffCalendar settings) ∧
    (∀ f : Filter,
      (∃ found, f.query settings = .ok found) ↔ ∀ c ∈ f.rows, ¬ c.AsksOffCalendar settings) ∧
    (∀ (fresh : FreshIds) (saved : SavedFilter) (text : String) (fields : List String),
      (∃ found, saved.queryWithSearch settings fresh text fields = .ok found) ↔
        ∀ c ∈ saved.rows, ¬ c.AsksOffCalendar settings) ∧
    (∀ (base : String) (c : Condition) (found : Noted Query), c.query settings base = .ok found →
      c.HasNoWindow settings → found.value = .everything) := by
  refine ⟨fun base c => ?_, fun base g => ?_, fun f => ?_, fun fresh saved text fields => ?_,
    fun base c found h hwindow => Condition.value_query_of_hasNoWindow hwindow h⟩
  · rw [OffCalendar.exists_ok_iff, Condition.query_eq_error_iff]
  · rw [OffCalendar.exists_ok_iff, Group.query_eq_error_iff]
    simp only [not_exists, not_and]
  · rw [OffCalendar.exists_ok_iff, Filter.query_eq_error_iff]
    simp only [not_exists, not_and]
  · rw [OffCalendar.exists_ok_iff, SavedFilter.query_eq_error_iff]
    simp only [not_exists, not_and]

/-- On the first day of the calendar there is no yesterday, and a row that asks for it is left out.
-/
theorem compiles_yesterday_of_first_day :
    ∃ found, Condition.query
        ⟨⟨⟨-96465292 * 86400, 0, by decide, by decide⟩, ⟨0, by decide⟩⟩, .default, none⟩ ""
        ⟨"c", "f", .known .dateIsRelative, .relative "yesterday"⟩ = .ok found ∧
      found.value = .everything := by
  obtain ⟨found, hfound⟩ : ∃ found, Condition.query
      ⟨⟨⟨-96465292 * 86400, 0, by decide, by decide⟩, ⟨0, by decide⟩⟩, .default, none⟩ ""
      ⟨"c", "f", .known .dateIsRelative, .relative "yesterday"⟩ = .ok found := ⟨_, rfl⟩
  exact ⟨found, hfound,
    (compiles_iff _).2.2.2.2 _ _ _ hfound ⟨_, rfl, "yesterday", _, rfl, rfl⟩⟩

/-- The last millisecond of the calendar has no date on a clock that is an hour ahead, and a row
that tests for its day has a fault instead of being left out. -/
theorem dateIs_last_millisecond_faults :
    Condition.query ⟨⟨⟨0, 0, by decide, by decide⟩, ⟨3600, by decide⟩⟩, .default, none⟩ ""
        ⟨"c", "f", .known .dateIs, .single (.number (.integer 8210266876799999 (by decide)))⟩ =
      .error .offCalendar :=
  rfl

end RecordFilter
