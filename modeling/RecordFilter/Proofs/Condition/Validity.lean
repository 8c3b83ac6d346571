import RecordFilter.Catalog.Standard
import RecordFilter.Proofs.Query.Values
import RecordFilter.Validation

/-!
# Validation and compiling agree

Validation looks at the number of values a row has and at whether they are blank; compiling reads
the values and drops the row when it can make nothing of them.  The two are written apart from each
other.  This file says that they agree.

* `Condition.valueProblem?_eq_none_iff` — validation asks for values that are there.
* `Condition.everything_of_isOfValues` — a row whose values have a problem constrains nothing.
* `Condition.everything_iff_of_problem?_eq_none` — a row without a problem constrains nothing only
  if its values are unreadable, never for its operator or for a value that is missing.
* `Verb.sample` — values with which a row constrains something, for every verb of a field.
* `Condition.agrees_validate` — the three for rows with a field.
-/

set_option autoImplicit false

namespace RecordFilter

/-! ## Rows -/

/-- Whether a problem is one of the values of a row. -/
def Problem.IsOfValues : Problem → Prop
  | .missingValue _ _ | .incompleteRange _ _ | .unknownPeriod _ _ => True
  | .malformed _ | .unknownField _ | .unsupportedOperator _ _ _ _ => False

namespace Condition

variable {c : Condition} {catalog : Catalog} {field : String}

theorem valueProblem?_eq_none_iff :
    c.valueProblem? field = none ↔ c.argument.IsFilled c.operator.arity := by
  rw [valueProblem?]
  cases c.operator.arity with
  | nothing => exact iff_of_true rfl trivial
  | single =>
    cases c.argument with
    | nothing | range lower upper | relative key => simp [Argument.IsFilled]
    | single value => cases hblank : value.isBlank <;> simp [Argument.IsFilled, hblank]
  | range =>
    cases c.argument with
    | nothing | single value | relative key => simp [Argument.IsFilled]
    | range lower upper =>
      cases lower with
      | none => simp [Literal.isPresent, Argument.IsFilled]
      | some lower => cases upper <;> simp [Literal.isPresent, Argument.IsFilled]
  | relative =>
    cases c.argument with
    | nothing | single value | range lower upper => simp [Argument.IsFilled]
    | relative key =>
      cases hblank : Text.isBlank key with
      | true => simp [Argument.IsFilled, Period.ofKey?_of_isBlank hblank, hblank]
      | false => simp [Argument.IsFilled, hblank, Option.isSome_iff_ne_none]

/-- Either the field or the operator of a row has a problem, or the operator is a verb that the
field supports and the values decide. -/
theorem problem?_eq (c : Condition) (catalog : Catalog) :
    (∃ problem, c.problem? catalog = some problem ∧ ¬ problem.IsOfValues) ∨
      ∃ verb, c.operator = .known verb ∧
        (catalog.kindOf (Text.trim c.field)).supports (.known verb) = true ∧
        c.problem? catalog = c.valueProblem? (Text.trim c.field) := by
  rw [problem?]
  cases hlisted : catalog.find? (Text.trim c.field) with
  | none => exact Or.inl ⟨_, rfl, not_false⟩
  | some listed =>
    have hkind : catalog.kindOf (Text.trim c.field) = listed.kind := by
      simp [Catalog.kindOf, hlisted]
    dsimp only
    split
    · rename_i hsupports
      cases hoperator : c.operator with
      | unknown key => rw [hoperator] at hsupports; cases hsupports
      | known verb => exact Or.inr ⟨verb, rfl, by rw [hkind, ← hoperator, hsupports], rfl⟩
    · exact Or.inl ⟨_, rfl, not_false⟩

theorem value_validate (hfield : c.isBlank = false) :
    (c.validate catalog).value = (c.problem? catalog).toList := by
  rw [validate, hfield]
  rfl

/-- A row with a field whose values have a problem constrains nothing. -/
theorem everything_of_isOfValues {settings : Settings} {base : String} (hfield : c.isBlank = false)
    {found : Noted Query} (h : c.query settings base = .ok found) {problem : Problem}
    (hproblem : c.problem? catalog = some problem) (hvalues : problem.IsOfValues) :
    found.value = .everything := by
  rcases problem?_eq c catalog with ⟨other, hother, hnot⟩ | ⟨verb, hverb, -, hdecides⟩
  · rw [hproblem] at hother
    exact absurd (Option.some.inj hother ▸ hvalues) hnot
  · obtain ⟨made, hmade, hiff⟩ := exists_query?_of_query hfield hverb h
    have hfilled : ¬ c.argument.IsFilled verb.arity := by
      intro hfilled
      have hnone : c.problem? catalog = none := by
        rw [hdecides, valueProblem?_eq_none_iff, hverb]
        exact hfilled
      rw [hnone] at hproblem
      cases hproblem
    exact hiff.2 (Verb.value_query?_of_not_isFilled hfilled hmade)

/-- A row with a field and without a problem has a verb, and constrains nothing exactly when its
values are unreadable. -/
theorem everything_iff_of_problem?_eq_none {settings : Settings}
    (hcatalog : settings.catalog = some catalog) {base : String} (hfield : c.isBlank = false)
    {found : Noted Query} (h : c.query settings base = .ok found)
    (hproblem : c.problem? catalog = none) :
    ∃ verb, c.operator = .known verb ∧ (found.value = .everything ↔
      c.argument.IsUnreadable settings (catalog.kindOf (Text.trim c.field)) verb) := by
  rcases problem?_eq c catalog with ⟨other, hother, -⟩ | ⟨verb, hverb, hsupports, hdecides⟩
  · rw [hproblem] at hother
    cases hother
  · obtain ⟨made, hmade, hiff⟩ := exists_query?_of_query hfield hverb h
    have hfilled : c.argument.IsFilled verb.arity := by
      have hvalues := valueProblem?_eq_none_iff.1 (hdecides.symm.trans hproblem)
      rw [hverb] at hvalues
      exact hvalues
    exact ⟨verb, hverb, hiff.trans (Verb.value_query?_eq_none_iff hcatalog hsupports hfilled hmade)⟩

end Condition

/-! ## Values for every verb -/

/-- Values that a verb can be used with, for a field of a kind that supports it. -/
def Verb.sample (kind : FieldKind) : Verb → Argument
  | .equals | .notEquals =>
    .single (if kind.basis = .boolean then .bool true else .number (.double (.zero false)))
  | .contains | .notContains | .startsWith | .endsWith | .greaterThan | .greaterThanOrEqual
  | .lessThan | .lessThanOrEqual | .isIn | .isNotIn => .single (.number (.double (.zero false)))
  | .between | .notBetween =>
    .range (some (.number (.double (.zero false)))) (some (.number (.double (.zero false))))
  | .dateIs | .dateIsNot | .dateBefore | .dateAfter => .single (.text "1970-01-01")
  | .dateBetween => .range (some (.text "1970-01-01")) (some (.text "1970-01-01"))
  | .dateIsRelative => .relative "today"
  | .isEmpty | .isNotEmpty | .dateThisWeek | .dateThisMonth | .dateThisYear | .isTrue | .isFalse =>
    .nothing

/-- Every clock has a first and a last millisecond of 1 January 1970. -/
theorem Literal.not_hasNoDay_epoch (offset : Offset) :
    ¬ (Literal.text "1970-01-01").HasNoDay offset := by
  have hmoment : Moment.ofText? (Text.trim "1970-01-01") = none := by cbv
  have hread : Day.ofText? (Text.trim "1970-01-01") = some ⟨0, by decide⟩ := by cbv
  have hday : (Literal.text "1970-01-01").day? offset = .ok (some ⟨0, by decide⟩) := by
    rw [day?, Day.ofAnyText?, hmoment]
    dsimp only
    rw [hread]
  have hbounds := offset.bounded
  rw [HasNoDay, hday]
  rintro (h | ⟨day, h, hday⟩)
  · cases h
  · obtain rfl := Option.some.inj (Except.ok.inj h)
    have hstart : InCalendar (-offset.seconds / 86400) := by
      constructor <;> omega
    have hfinish : InCalendar ((86399 - offset.seconds) / 86400) := by
      constructor <;> omega
    simp [Day.start?, Day.finish?, Instant.ofSeconds?, hstart, hfinish] at hday

namespace Verb

theorem isFilled_sample (kind : FieldKind) (verb : Verb) :
    (verb.sample kind).IsFilled verb.arity := by
  cases verb
  case equals | notEquals =>
    show Literal.isBlank (if kind.basis = .boolean then _ else _) = false
    split <;> rfl
  case between | notBetween | dateBetween => exact ⟨rfl, rfl⟩
  case isEmpty | isNotEmpty | dateThisWeek | dateThisMonth | dateThisYear | isTrue | isFalse =>
    exact trivial
  all_goals rfl

theorem not_isUnreadable_sample {settings : Settings}
    (hroom : ∀ period : Period, ¬ period.HasNoRoom settings) {kind : FieldKind} {verb : Verb} :
    ¬ (verb.sample kind).IsUnreadable settings kind verb := by
  have hday := Literal.not_hasNoDay_epoch settings.now.offset
  cases verb
  case dateThisWeek | dateThisMonth | dateThisYear => exact hroom _
  case dateIsRelative =>
    rintro ⟨key, period, hkey, hperiod, hnone⟩
    exact hroom period hnone
  case dateIs | dateIsNot | dateBefore | dateAfter =>
    simpa [sample, Argument.IsUnreadable] using hday
  case dateBetween =>
    rw [sample, Argument.IsUnreadable, Argument.exists_range_iff]
    exact fun h => h.elim hday hday
  case equals | notEquals =>
    by_cases hkind : kind.basis = .boolean
    · simp [sample, Argument.IsUnreadable, hkind, Literal.bool?]
    · simp [sample, Argument.IsUnreadable, hkind, Literal.number?, Json.Number.toDouble,
        Double.finite?]
  all_goals
    simp [sample, Argument.IsUnreadable, Literal.number?, Json.Number.toDouble, Double.finite?]

/-- None of the values counts the milliseconds of an instant, so only a period can ask for a date.
-/
theorem not_asksOffCalendar_sample {now : Moment} (hnow : ¬ now.instant.IsOffCalendar now.offset)
    {kind : FieldKind} {verb : Verb} : ¬ (verb.sample kind).AsksOffCalendar now verb := by
  cases verb
  case dateThisWeek | dateThisMonth | dateThisYear => exact hnow
  case dateIsRelative =>
    rintro ⟨key, period, -, -, hout⟩
    exact hnow hout
  case dateIs | dateIsNot | dateBefore | dateAfter =>
    rintro ⟨value, hvalue, hout⟩
    obtain rfl := Option.some.inj hvalue
    exact hout
  case dateBetween =>
    rintro ⟨lower, upper, hends, hout⟩
    obtain ⟨rfl, rfl⟩ := Prod.mk.inj (Option.some.inj hends)
    exact hout.elim not_false fun h => h.2
  all_goals exact not_false

end Verb

namespace Condition

/-- **Validation and compiling agree.**  Take a row with a field that compiles.  If its values have
a problem, it constrains nothing.  If it has no problem, its operator is a verb, and it constrains
nothing exactly when its values are unreadable.  And where the calendar has room for all periods,
each verb that a listed field supports has values with which a row has no problem and constrains
something. -/
theorem agrees_validate {settings : Settings} {catalog : Catalog}
    (hcatalog : settings.catalog = some catalog) (base : String) :
    (∀ c : Condition, c.isBlank = false → ∀ found, c.query settings base = .ok found →
      (∀ problem ∈ (c.validate catalog).value, problem.IsOfValues → found.value = .everything) ∧
      ((c.validate catalog).value = [] → ∃ verb, c.operator = .known verb ∧
        (found.value = .everything ↔
          c.argument.IsUnreadable settings (catalog.kindOf (Text.trim c.field)) verb))) ∧
    ((∀ period : Period, ∃ window,
        period.window? settings.now settings.options.weekStart = .ok (some window)) →
      ∀ (field : String) (listed : Field) (verb : Verb), Text.isBlank field = false →
        catalog.find? (Text.trim field) = some listed →
        listed.kind.supports (.known verb) = true →
        ∃ argument : Argument, ∀ id : String,
          (validate ⟨id, field, .known verb, argument⟩ catalog).value = [] ∧
          ∃ found, query settings base ⟨id, field, .known verb, argument⟩ = .ok found ∧
            found.value ≠ .everything) := by
  constructor
  · intro c hfield found h
    rw [value_validate hfield]
    constructor
    · intro problem hproblem hvalues
      exact everything_of_isOfValues hfield h (Option.mem_toList.1 hproblem) hvalues
    · intro hnone
      exact everything_iff_of_problem?_eq_none hcatalog hfield h (Option.toList_eq_nil_iff.1 hnone)
  · intro hwindows field listed verb hfield hlisted hsupports
    refine ⟨verb.sample listed.kind, fun id => ?_⟩
    have hkind : catalog.kindOf (Text.trim field) = listed.kind := by
      simp [Catalog.kindOf, hlisted]
    have hproblem : problem? ⟨id, field, .known verb, verb.sample listed.kind⟩ catalog = none := by
      rw [problem?]
      dsimp only
      rw [hlisted]
      dsimp only
      rw [if_pos hsupports]
      exact valueProblem?_eq_none_iff.2 (Verb.isFilled_sample listed.kind verb)
    have hrow : isBlank ⟨id, field, .known verb, verb.sample listed.kind⟩ = false := hfield
    refine ⟨by rw [value_validate hrow, hproblem]; rfl, ?_⟩
    have hnow : ¬ settings.now.instant.IsOffCalendar settings.now.offset := by
      intro hout
      obtain ⟨window, hwindow⟩ := hwindows .today
      rw [Period.window?_eq_error_iff.2 hout] at hwindow
      cases hwindow
    have hroom : ∀ period : Period, ¬ period.HasNoRoom settings := by
      intro period hnone
      obtain ⟨window, hwindow⟩ := hwindows period
      rw [Period.HasNoRoom, hwindow] at hnone
      cases hnone
    have hreturns : query settings base ⟨id, field, .known verb, verb.sample listed.kind⟩ ≠
        .error .offCalendar := by
      rw [Ne, query_eq_error_iff]
      rintro ⟨-, other, hother, hasks⟩
      obtain rfl := Operator.known.inj hother
      exact Verb.not_asksOffCalendar_sample hnow hasks
    obtain ⟨found, hfound⟩ := OffCalendar.exists_ok_iff.2 hreturns
    obtain ⟨other, hother, hiff⟩ :=
      everything_iff_of_problem?_eq_none hcatalog hrow hfound hproblem
    obtain rfl := Operator.known.inj hother
    refine ⟨found, hfound, fun h => ?_⟩
    have hunreadable := hiff.1 h
    rw [hkind] at hunreadable
    exact Verb.not_isUnreadable_sample hroom hunreadable

/-- Of a person's ages, a range with one end has a problem and a bound that is no number has none;
both constrain nothing.  At the beginning of 1970 the calendar has room for all periods, so there is
a bound that constrains something. -/
theorem agrees_validate_ages :
    ∃ settings : Settings, settings.catalog = some RecordKind.people.catalog ∧
      (∃ found, query settings "" ⟨"a", "age", .known .between, .range (some (.text "18")) none⟩ =
          .ok found ∧
        (validate ⟨"a", "age", .known .between, .range (some (.text "18")) none⟩
          RecordKind.people.catalog).value = [.incompleteRange "age" "between"] ∧
        found.value = .everything) ∧
      (∃ found, query settings "" ⟨"b", "age", .known .greaterThan, .single (.text "old")⟩ =
          .ok found ∧
        (validate ⟨"b", "age", .known .greaterThan, .single (.text "old")⟩
          RecordKind.people.catalog).value = [] ∧
        found.value = .everything) ∧
      (∀ period : Period, ∃ window,
        period.window? settings.now settings.options.weekStart = .ok (some window)) ∧
      ∃ argument found, query settings "" ⟨"c", "age", .known .greaterThan, argument⟩ = .ok found ∧
        found.value ≠ .everything := by
  have hwindows : ∀ period : Period, ∃ window,
      period.window? Settings.atEpoch.now .sunday = .ok (some window) := by
    intro period
    cases period <;> exact ⟨_, rfl⟩
  obtain ⟨hrows, hverbs⟩ := @agrees_validate
    ⟨Settings.atEpoch.now, .default, some RecordKind.people.catalog⟩ _ rfl ""
  refine ⟨⟨Settings.atEpoch.now, .default, some RecordKind.people.catalog⟩, rfl,
    ⟨_, rfl, rfl, ?_⟩, ⟨_, rfl, rfl, ?_⟩, hwindows, ?_⟩
  · obtain ⟨hopen, -⟩ := hrows
      ⟨"a", "age", .known .between, .range (some (.text "18")) none⟩ rfl _ rfl
    have hproblem : (validate ⟨"a", "age", .known .between, .range (some (.text "18")) none⟩
        RecordKind.people.catalog).value = [.incompleteRange "age" "between"] := rfl
    refine hopen (.incompleteRange "age" "between") ?_ trivial
    rw [hproblem]
    exact List.mem_singleton_self _
  · obtain ⟨-, hold⟩ := hrows ⟨"b", "age", .known .greaterThan, .single (.text "old")⟩ rfl _ rfl
    obtain ⟨verb, hverb, hiff⟩ := hold rfl
    obtain rfl := Operator.known.inj hverb
    exact hiff.2 ⟨.text "old", rfl, rfl⟩
  · obtain ⟨argument, h⟩ := hverbs hwindows "age" (.ofPath "age" .number) .greaterThan rfl rfl rfl
    obtain ⟨-, found, hfound, hne⟩ := h "c"
    exact ⟨argument, found, hfound, hne⟩

end Condition
end RecordFilter
