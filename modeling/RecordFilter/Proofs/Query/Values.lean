import Mathlib
import RecordFilter.Operator.Offered
import RecordFilter.Proofs.Query.Row
import RecordFilter.Proofs.Text.Space

/-!
# Values that are of use

A verb reads its values in one of two dozen ways, and makes nothing of them when that fails.  This
file says when it fails.

* `Argument.IsFilled` — the values are there: as many as the verb takes, none of them blank, and the
  key of a period.
* `Argument.IsUnreadable` — why values that are there may be of no use all the same.  It is the
  text, the number, the boolean or the day itself that cannot be read, or the calendar has no room
  for the day or the period.
* `Verb.value_query?_of_not_isFilled` — values that are not there are of no use.
* `Verb.value_query?_eq_none_iff` — values that are there are of no use exactly when they are
  unreadable.  The kind of the field is one that supports the verb, so that *is in* never looks for
  numbers or booleans in a list.
-/

set_option autoImplicit false

namespace RecordFilter

/-! ## Values that are there -/

/-- Whether an argument has the values that an operator of this arity needs. -/
def Argument.IsFilled : Arity → Argument → Prop
  | .nothing, _ => True
  | .single, .single value => value.isBlank = false
  | .range, .range (some lower) (some upper) => lower.isBlank = false ∧ upper.isBlank = false
  | .relative, .relative key => (Period.ofKey? key).isSome = true
  | _, _ => False

/-! ## What cannot be read -/

/-- Whether a value is read as no day, or as one whose first or last millisecond is not in the
calendar. -/
def Literal.HasNoDay (offset : Offset) (value : Literal) : Prop :=
  value.day? offset = .ok none ∨
    ∃ day, value.day? offset = .ok (some day) ∧
      (day.start? offset = none ∨ day.finish? offset = none)

/-- Whether the calendar leaves no room for a period around the moment of compiling. -/
def Period.HasNoRoom (settings : Settings) (period : Period) : Prop :=
  period.window? settings.now settings.options.weekStart = .ok none

/-- Why the values of a verb may be of no use though they are all there, for a field of this kind.
-/
def Argument.IsUnreadable (settings : Settings) (kind : FieldKind) (argument : Argument) :
    Verb → Prop
  | .contains | .notContains | .startsWith | .endsWith => ∃ items, argument = .single (.list items)
  | .equals | .notEquals =>
    ∃ value, argument = .single value ∧
      (kind.basis = .number ∧ value.number? = none ∨ kind.basis = .boolean ∧ value.bool? = none)
  | .greaterThan | .greaterThanOrEqual | .lessThan | .lessThanOrEqual =>
    ∃ value, argument = .single value ∧ value.number? = none
  | .between | .notBetween =>
    ∃ lower upper, argument = .range (some lower) (some upper) ∧
      (lower.number? = none ∨ upper.number? = none)
  | .dateIs | .dateIsNot | .dateBefore | .dateAfter =>
    ∃ value, argument = .single value ∧ value.HasNoDay settings.now.offset
  | .dateBetween =>
    ∃ lower upper, argument = .range (some lower) (some upper) ∧
      (lower.HasNoDay settings.now.offset ∨ upper.HasNoDay settings.now.offset)
  | .dateThisWeek => Period.thisWeek.HasNoRoom settings
  | .dateThisMonth => Period.thisMonth.HasNoRoom settings
  | .dateThisYear => Period.thisYear.HasNoRoom settings
  | .dateIsRelative =>
    ∃ key period, argument = .relative key ∧ Period.ofKey? key = some period ∧
      period.HasNoRoom settings
  | .isEmpty | .isNotEmpty | .isTrue | .isFalse | .isIn | .isNotIn => False

/-! ## Blank values -/

theorem Period.ofKey?_of_isBlank {key : String} (h : Text.isBlank key = true) :
    ofKey? key = none := by
  rw [ofKey?, Text.trim_of_isBlank h]
  rfl

namespace Literal

variable {value : Literal}

theorem number?_of_isBlank (h : value.isBlank = true) : value.number? = none := by
  cases value with
  | bool b => rfl
  | list items => rfl
  | number n => cases h
  | text s =>
    rw [number?, Text.trim_of_isBlank h]
    rfl

theorem day?_of_isBlank (h : value.isBlank = true) (offset : Offset) :
    value.day? offset = .ok none := by
  cases value with
  | bool b => rfl
  | list items => rfl
  | number n => cases h
  | text s =>
    rw [day?, Text.trim_of_isBlank h]
    rfl

theorem dayWindow?_eq_none_iff {offset : Offset} :
    value.dayWindow? offset = .ok none ↔ value.HasNoDay offset := by
  rw [dayWindow?, HasNoDay]
  cases value.day? offset with
  | error fault => simp [Except.map]
  | ok day? =>
    cases day? with
    | none => exact iff_of_true rfl (Or.inl rfl)
    | some day =>
      have hwindow : (Except.ok (some day) : Except OffCalendar (Option Day)).map
          (fun day? => day?.bind fun day => Period.daysWindow? day day offset) =
            .ok (Period.daysWindow? day day offset) := rfl
      rw [hwindow, Except.ok.injEq, Period.daysWindow?]
      cases hstart : day.start? offset with
      | none => exact iff_of_true rfl (Or.inr ⟨day, rfl, Or.inl hstart⟩)
      | some start =>
        cases hfinish : day.finish? offset with
        | none => exact iff_of_true rfl (Or.inr ⟨day, rfl, Or.inr hfinish⟩)
        | some finish =>
          refine iff_of_false (by simp) ?_
          rintro (h | ⟨other, h, hother⟩)
          · cases h
          · obtain rfl : day = other := by simpa using h
            simp [hstart, hfinish] at hother

theorem dayWindow?_of_isBlank (h : value.isBlank = true) (offset : Offset) :
    value.dayWindow? offset = .ok none :=
  dayWindow?_eq_none_iff.2 (Or.inl (day?_of_isBlank h offset))

theorem text?_eq_none_iff : value.text? = none ↔ ∃ items, value = .list items := by
  cases value with
  | bool b => cases b <;> simp [text?]
  | number n => simp [text?]
  | text s => simp [text?]
  | list items => simp [text?]

end Literal

/-! ## What verbs make of their values -/

namespace Query

theorem ofText?_eq_none_iff {path : String} {value : Literal} {test : String → Test} :
    ofText? path (some value) test = none ↔ ∃ items, value = .list items := by
  rw [ofText?, Option.map_eq_none_iff, Option.bind_some, Literal.text?_eq_none_iff]

theorem ofNumber?_eq_none_iff {path : String} {value : Literal} {test : Operand → Test} :
    ofNumber? path (some value) test = none ↔ value.number? = none := by
  rw [ofNumber?, Option.map_eq_none_iff, Option.bind_some]

theorem ofNumbers?_eq_none_iff {lower upper : Literal} {query : Operand → Operand → Query} :
    ofNumbers? (some (lower, upper)) query = none ↔
      lower.number? = none ∨ upper.number? = none := by
  rw [ofNumbers?_eq_map, Option.map_eq_none_iff, numbers?, Option.bind_some]
  cases lower.number? with
  | none => simp
  | some low => simp

theorem ofDay?_eq_none_iff {offset : Offset} {value : Literal}
    {query : Operand → Operand → Query} :
    ofDay? offset (some value) query = .ok none ↔ value.HasNoDay offset := by
  rw [ofDay?, ← Literal.dayWindow?_eq_none_iff]
  cases value.dayWindow? offset with
  | error fault => simp [Except.map]
  | ok window? => cases window? <;> simp [Except.map]

/-- The first end of a range of days is looked at first: if it has no day the second one is not
looked at, and cannot have a fault. -/
theorem ofDays?_eq_none_iff {path : String} {offset : Offset} {lower upper : Literal}
    {found : Option Query} (h : ofDays? path offset (some (lower, upper)) = .ok found) :
    found = none ↔ lower.HasNoDay offset ∨ upper.HasNoDay offset := by
  rw [← Literal.dayWindow?_eq_none_iff, ← Literal.dayWindow?_eq_none_iff]
  refine ⟨?_, fun hwindow => ofDays?_eq_none hwindow h⟩
  rintro rfl
  rw [ofDays?] at h
  cases hlower : lower.dayWindow? offset with
  | error fault => rw [hlower] at h; cases h
  | ok first =>
    cases first with
    | none => exact Or.inl rfl
    | some window =>
      rw [hlower] at h
      cases hupper : upper.dayWindow? offset with
      | error fault => rw [hupper] at h; cases h
      | ok last =>
        cases last with
        | none => exact Or.inr rfl
        | some other => rw [hupper] at h; cases h

theorem ofPeriod?_eq_none_iff {path : String} {settings : Settings} {period : Period} :
    ofPeriod? path settings period = .ok none ↔ period.HasNoRoom settings := by
  rw [ofPeriod?, Period.HasNoRoom]
  cases period.window? settings.now settings.options.weekStart with
  | error fault => simp [Except.map]
  | ok window? => cases window? <;> simp [Except.map]

theorem value_orFault_eq_none_iff {query : Except OffCalendar (Option Query)}
    {found : Noted (Option Query)} (h : orFault query = .ok found) :
    found.value = none ↔ query = .ok none := by
  cases query with
  | error fault => cases h
  | ok q =>
    obtain rfl := Except.ok.inj h
    rw [Except.ok.injEq]

/-- A key that names no period has no window. -/
theorem value_ofPeriodKey?_of_none {path : String} {settings : Settings} {key : String}
    (hkey : Period.ofKey? key = none) {found : Noted (Option Query)}
    (h : ofPeriodKey? path settings (some key) = .ok found) : found.value = none := by
  rw [ofPeriodKey?, Period.windowOfKey?, hkey] at h
  exact congrArg Noted.value (Except.ok.inj h).symm

theorem value_ofPeriodKey?_eq_none_iff {path : String} {settings : Settings} {key : String}
    {period : Period} (hkey : Period.ofKey? key = some period) {found : Noted (Option Query)}
    (h : ofPeriodKey? path settings (some key) = .ok found) :
    found.value = none ↔ period.HasNoRoom settings := by
  rw [ofPeriodKey?, Period.windowOfKey?, hkey] at h
  rw [Period.HasNoRoom]
  dsimp only at h
  cases hwindow : period.window? settings.now settings.options.weekStart with
  | error fault => rw [hwindow] at h; cases h
  | ok window? =>
    rw [hwindow] at h
    obtain rfl := Except.ok.inj h
    cases window? <;> simp [Noted.map]

end Query

namespace Literal

variable {catalog : Catalog} {field : String} {value : Literal}

theorem operand?_eq_none_iff :
    value.operand? (some catalog) field = none ↔
      (catalog.kindOf field).basis = .number ∧ value.number? = none ∨
        (catalog.kindOf field).basis = .boolean ∧ value.bool? = none := by
  rw [operand?]
  dsimp only [Option.map_some]
  cases (catalog.kindOf field).basis <;> simp

/-- For a field of a kind other than numbers and booleans every value stands for an operand. -/
theorem operand?_of_select (hkind : (catalog.kindOf field).basis = .select) :
    value.operand? (some catalog) field = some (.ofLiteral value) := by
  simp [operand?, hkind]

theorem operands?_ne_none (hkind : (catalog.kindOf field).basis = .select)
    (hvalue : value.isBlank = false) : value.operands? (some catalog) field ≠ none := by
  have hitems : ∀ items : List Literal,
      items.mapM (operand? (some catalog) field) = some (items.map Operand.ofLiteral) := by
    intro items
    induction items with
    | nil => rfl
    | cons v rest ih => simp [List.mapM_cons, operand?_of_select hkind, ih]
  have hnonempty : value.items ≠ [] := by
    cases value with
    | list items => simpa [isBlank, Literal.items] using hvalue
    | bool b | number n | text s => exact List.cons_ne_nil _ _
  rw [operands?, hitems]
  cases hvalues : value.items with
  | nil => exact absurd hvalues hnonempty
  | cons v rest => simp

end Literal

namespace Argument

variable {argument : Argument}

theorem exists_of_isFilled_single (h : argument.IsFilled .single) :
    ∃ value, argument = .single value ∧ value.isBlank = false := by
  cases argument with
  | single value => exact ⟨value, rfl, h⟩
  | nothing | range lower upper | relative key => exact h.elim

theorem exists_of_isFilled_range (h : argument.IsFilled .range) :
    ∃ lower upper, argument = .range (some lower) (some upper) := by
  cases argument with
  | range lower upper =>
    cases lower with
    | none => exact h.elim
    | some lower =>
      cases upper with
      | none => exact h.elim
      | some upper => exact ⟨lower, upper, rfl⟩
  | nothing | single value | relative key => exact h.elim

/-- A range with both ends has no others. -/
theorem exists_range_iff {lower upper : Literal} {p : Literal → Literal → Prop} :
    (∃ l u, range (some lower) (some upper) = range (some l) (some u) ∧ p l u) ↔ p lower upper := by
  constructor
  · rintro ⟨l, u, h, hp⟩
    cases h
    exact hp
  · exact fun hp => ⟨lower, upper, rfl, hp⟩

theorem exists_of_isFilled_relative (h : argument.IsFilled .relative) :
    ∃ key period, argument = .relative key ∧ Period.ofKey? key = some period := by
  cases argument with
  | relative key =>
    obtain ⟨period, hperiod⟩ := Option.isSome_iff_exists.1 h
    exact ⟨key, period, rfl, hperiod⟩
  | nothing | single value | range lower upper => exact h.elim

theorem filter_single?_of_not_isFilled (h : ¬ argument.IsFilled .single) :
    (argument.single?.filter fun value => !value.isBlank) = none := by
  cases argument with
  | nothing | range lower upper | relative key => rfl
  | single value =>
    have hblank : value.isBlank = true := by simpa [IsFilled] using h
    simp [single?, hblank]

theorem filter_single?_of_not_isBlank {value : Literal} (h : value.isBlank = false) :
    ((single value).single?.filter fun value => !value.isBlank) = some value := by
  simp [single?, h]

/-- A range with an end that is missing or blank has not got two ends that can be read. -/
theorem ends?_of_not_isFilled (h : ¬ argument.IsFilled .range) :
    argument.ends? = none ∨ ∃ lower upper, argument.ends? = some (lower, upper) ∧
      (lower.isBlank = true ∨ upper.isBlank = true) := by
  cases argument with
  | nothing | single value | relative key => exact Or.inl rfl
  | range lower upper =>
    cases lower with
    | none => exact Or.inl rfl
    | some lower =>
      cases upper with
      | none => exact Or.inl rfl
      | some upper =>
        refine Or.inr ⟨lower, upper, rfl, ?_⟩
        cases hlower : lower.isBlank with
        | true => exact Or.inl rfl
        | false => exact Or.inr (by simpa [IsFilled, hlower] using h)

theorem key?_of_not_isFilled (h : ¬ argument.IsFilled .relative) :
    argument.key? = none ∨ ∃ key, argument.key? = some key ∧ Period.ofKey? key = none := by
  cases argument with
  | nothing | single value | range lower upper => exact Or.inl rfl
  | relative key => exact Or.inr ⟨key, rfl, by simpa [IsFilled] using h⟩

end Argument

namespace Verb

variable {settings : Settings} {field path : String} {argument : Argument} {verb : Verb}
  {found : Noted (Option Query)}

/-- **Values that are missing or blank are of no use to a verb**, and neither is a key that names no
period. -/
theorem value_query?_of_not_isFilled (hfilled : ¬ argument.IsFilled verb.arity)
    (h : verb.query? settings field path argument = .ok found) : found.value = none := by
  cases verb
  case isEmpty | isNotEmpty | dateThisWeek | dateThisMonth | dateThisYear | isTrue | isFalse =>
    exact absurd trivial hfilled
  case between | notBetween =>
    simp only [query?] at h
    obtain rfl := Except.ok.inj h
    rcases Argument.ends?_of_not_isFilled hfilled with hends | ⟨lower, upper, hends, hblank⟩
    · rw [hends]
      rfl
    · rw [hends]
      exact Query.ofNumbers?_eq_none_iff.2 (hblank.imp Literal.number?_of_isBlank
        Literal.number?_of_isBlank)
  case dateBetween =>
    rw [query?] at h
    rcases Argument.ends?_of_not_isFilled hfilled with hends | ⟨lower, upper, hends, hblank⟩
    · rw [hends] at h
      exact congrArg Noted.value (Except.ok.inj h).symm
    · rw [hends] at h
      cases hdays : Query.ofDays? path settings.now.offset (some (lower, upper)) with
      | error fault => rw [hdays] at h; cases h
      | ok days? =>
        obtain rfl : days? = none := Query.ofDays?_eq_none (hblank.imp
          (Literal.dayWindow?_of_isBlank · _) (Literal.dayWindow?_of_isBlank · _)) hdays
        rw [hdays] at h
        exact congrArg Noted.value (Except.ok.inj h).symm
  case dateIsRelative =>
    rw [query?] at h
    rcases Argument.key?_of_not_isFilled hfilled with hkey | ⟨key, hkey, hperiod⟩
    · rw [hkey] at h
      exact congrArg Noted.value (Except.ok.inj h).symm
    · rw [hkey] at h
      exact Query.value_ofPeriodKey?_of_none hperiod h
  -- the verbs that take a single value all look at it without blanks
  all_goals
    rw [query?, Argument.filter_single?_of_not_isFilled hfilled] at h
    exact congrArg Noted.value (Except.ok.inj h).symm

/-- A field whose operators include membership is one of choices. -/
theorem basis_of_supports_isIn {kind : FieldKind}
    (h : kind.supports (.known .isIn) = true ∨ kind.supports (.known .isNotIn) = true) :
    kind.basis = .select := by
  cases kind <;> revert h <;> decide

/-- **Filled values are of no use exactly when they are unreadable**, for a verb that the kind of
the field supports. -/
theorem value_query?_eq_none_iff {catalog : Catalog} (hcatalog : settings.catalog = some catalog)
    (hsupports : (catalog.kindOf field).supports (.known verb) = true)
    (hfilled : argument.IsFilled verb.arity)
    (h : verb.query? settings field path argument = .ok found) :
    found.value = none ↔ argument.IsUnreadable settings (catalog.kindOf field) verb := by
  cases verb
  case contains | notContains | startsWith | endsWith =>
    obtain ⟨value, rfl, hvalue⟩ := Argument.exists_of_isFilled_single hfilled
    simp only [query?, Argument.filter_single?_of_not_isBlank hvalue] at h
    obtain rfl := Except.ok.inj h
    rw [Query.ofText?_eq_none_iff]
    simp [Argument.IsUnreadable]
  case equals | notEquals =>
    obtain ⟨value, rfl, hvalue⟩ := Argument.exists_of_isFilled_single hfilled
    simp only [query?, Argument.filter_single?_of_not_isBlank hvalue] at h
    obtain rfl := Except.ok.inj h
    rw [hcatalog, Option.map_eq_none_iff, Option.bind_some, Literal.operand?_eq_none_iff]
    simp [Argument.IsUnreadable]
  case isIn | isNotIn =>
    obtain ⟨value, rfl, hvalue⟩ := Argument.exists_of_isFilled_single hfilled
    simp only [query?, Argument.filter_single?_of_not_isBlank hvalue] at h
    obtain rfl := Except.ok.inj h
    have hkind : (catalog.kindOf field).basis = .select :=
      basis_of_supports_isIn (by simp [hsupports])
    rw [hcatalog, Option.map_eq_none_iff, Option.bind_some]
    exact iff_of_false (Literal.operands?_ne_none hkind hvalue) id
  case greaterThan | greaterThanOrEqual | lessThan | lessThanOrEqual =>
    obtain ⟨value, rfl, hvalue⟩ := Argument.exists_of_isFilled_single hfilled
    simp only [query?, Argument.filter_single?_of_not_isBlank hvalue] at h
    obtain rfl := Except.ok.inj h
    rw [Query.ofNumber?_eq_none_iff]
    simp [Argument.IsUnreadable]
  case between | notBetween =>
    obtain ⟨lower, upper, rfl⟩ := Argument.exists_of_isFilled_range hfilled
    simp only [query?, Argument.ends?] at h
    obtain rfl := Except.ok.inj h
    rw [Argument.IsUnreadable, Argument.exists_range_iff, Query.ofNumbers?_eq_none_iff]
  case dateIs | dateIsNot | dateBefore | dateAfter =>
    obtain ⟨value, rfl, hvalue⟩ := Argument.exists_of_isFilled_single hfilled
    simp only [query?, Argument.filter_single?_of_not_isBlank hvalue] at h
    rw [Query.value_orFault_eq_none_iff h, Query.ofDay?_eq_none_iff]
    simp [Argument.IsUnreadable]
  case dateBetween =>
    obtain ⟨lower, upper, rfl⟩ := Argument.exists_of_isFilled_range hfilled
    simp only [query?, Argument.ends?] at h
    rw [Argument.IsUnreadable, Argument.exists_range_iff, Query.value_orFault_eq_none_iff h]
    cases hdays : Query.ofDays? path settings.now.offset (some (lower, upper)) with
    | error fault => rw [hdays] at h; cases h
    | ok days? => rw [Except.ok.injEq, Query.ofDays?_eq_none_iff hdays]
  case dateThisWeek | dateThisMonth | dateThisYear =>
    simp only [query?] at h
    rw [Query.value_orFault_eq_none_iff h, Query.ofPeriod?_eq_none_iff]
    exact Iff.rfl
  case dateIsRelative =>
    obtain ⟨key, period, rfl, hperiod⟩ := Argument.exists_of_isFilled_relative hfilled
    simp only [query?, Argument.key?] at h
    rw [Query.value_ofPeriodKey?_eq_none_iff hperiod h]
    simp [Argument.IsUnreadable, hperiod]
  case isEmpty | isNotEmpty | isTrue | isFalse =>
    simp only [query?] at h
    obtain rfl := Except.ok.inj h
    simp [Argument.IsUnreadable]

end Verb

end RecordFilter
