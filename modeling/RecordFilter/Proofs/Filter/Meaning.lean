import RecordFilter.Proofs.Condition.Validity
import RecordFilter.Proofs.Filter.RoundTrip

/-!
# What reloading does not change

The stored form of a row has no place for values that its operator does not take, so such a row does
not come back as it was.  What it asks for is the same all the same: its values were of no use
before, and those that it comes back with are of no use either.

* `Argument.IsVacant` — there is nothing in the values that an operator of some arity looks at.
* `Argument.eq_or_isVacant` — values come back as they were, or are vacant before and after.
* `Verb.value_query?_of_isVacant`, `Condition.valueProblem?_of_isVacant` — neither the queries nor
  the problems of rows tell one vacant argument from another.
* `Condition.value_query_reloaded`, `Condition.validate_reloaded` — so neither tells a row from what
  it comes back as.
* `Filter.same_meaning_of_ofJson?_toJson` — the same for filters.
-/

set_option autoImplicit false

namespace RecordFilter

/-! ## Values that are of no use -/

namespace Argument

/-- Whether an argument has nothing that an operator of this arity looks at. -/
def IsVacant : Arity → Argument → Prop
  | .single, .single _ => False
  | .range, .range lower upper => lower = none ∧ upper = none
  | .relative, .relative key => key = ""
  | _, _ => True

variable {argument : Argument}

theorem isVacant_of_arity_ne {arity : Arity} (h : argument.arity ≠ arity) :
    argument.IsVacant arity := by
  cases arity <;> cases argument <;> trivial

theorem single?_of_isVacant (h : argument.IsVacant .single) : argument.single? = none := by
  cases argument with
  | single value => exact h.elim
  | nothing | range lower upper | relative key => rfl

theorem ends?_of_isVacant (h : argument.IsVacant .range) : argument.ends? = none := by
  cases argument with
  | range lower upper =>
    obtain ⟨rfl, rfl⟩ := h
    rfl
  | nothing | single value | relative key => rfl

theorem key?_of_isVacant (h : argument.IsVacant .relative) :
    argument.key? = none ∨ argument.key? = some "" := by
  cases argument with
  | relative key => exact Or.inr (congrArg some h)
  | nothing | single value | range lower upper => exact Or.inl rfl

/-- The slots of values that an operator does not take leave it with nothing to look at. -/
theorem isVacant_ofSlots_slots {operator : Operator} (h : argument.arity ≠ operator.arity) :
    (ofSlots argument.slots operator).IsVacant operator.arity := by
  cases operator with
  | unknown key => trivial
  | known verb =>
    have hne : argument.arity ≠ verb.arity := h
    show IsVacant verb.arity (ofSlots argument.slots (.known verb))
    rw [ofSlots]
    cases harity : verb.arity <;> rw [harity] at hne
    case nothing => trivial
    case single =>
      have hnothing : ofValueSlot argument.slots = nothing := by
        rcases argument with _ | value | ⟨lower | lower, upper | upper⟩ | key
        case single => exact absurd rfl hne
        all_goals rfl
      rw [hnothing]
      trivial
    case range =>
      have hends : Literal.ofSlot? argument.slots "valueFrom" = none ∧
          Literal.ofSlot? argument.slots "valueTo" = none := by
        cases argument
        case range => exact absurd rfl hne
        all_goals exact ⟨rfl, rfl⟩
      exact hends
    case relative =>
      have hkey : keySlot? argument.slots = none := by
        rcases argument with _ | value | ⟨lower | lower, upper | upper⟩ | key
        case relative => exact absurd rfl hne
        all_goals rfl
      exact congrArg (fun key? : Option String => key?.getD "") hkey

/-- **Values come back as they were, or there was nothing to lose.** -/
theorem eq_or_isVacant (argument : Argument) (operator : Operator) :
    ofSlots argument.slots operator = argument ∨
      argument.IsVacant operator.arity ∧
        (ofSlots argument.slots operator).IsVacant operator.arity := by
  by_cases hfits : argument.arity = operator.arity
  · exact Or.inl (ofSlots_slots (.fits hfits))
  · exact Or.inr ⟨isVacant_of_arity_ne hfits, isVacant_ofSlots_slots hfits⟩

end Argument

/-! ## Rows with values that are of no use -/

section

variable {before after : Argument}

/-- A verb makes the same of all values that are vacant. -/
theorem Verb.value_query?_of_isVacant {verb : Verb} (hbefore : before.IsVacant verb.arity)
    (hafter : after.IsVacant verb.arity) (settings : Settings) (field path : String) :
    (verb.query? settings field path before).map Noted.value =
      (verb.query? settings field path after).map Noted.value := by
  cases verb
  case isEmpty | isNotEmpty | dateThisWeek | dateThisMonth | dateThisYear | isTrue | isFalse => rfl
  case between | notBetween | dateBetween =>
    rw [query?, query?, Argument.ends?_of_isVacant hbefore, Argument.ends?_of_isVacant hafter]
  case dateIsRelative =>
    -- an empty key leaves a note that a missing one does not leave
    have hnone : ∀ {argument : Argument}, argument.IsVacant .relative →
        (Query.ofPeriodKey? path settings argument.key?).map Noted.value = .ok none := by
      intro argument hargument
      rcases Argument.key?_of_isVacant hargument with hkey | hkey
      · rw [hkey]
        rfl
      · have hperiod : Period.ofKey? "" = none := Period.ofKey?_of_isBlank (by decide)
        rw [hkey, Query.ofPeriodKey?, Period.windowOfKey?, hperiod]
        rfl
    exact (hnone hbefore).trans (hnone hafter).symm
  -- the verbs that take a single value have none to look at
  all_goals
    rw [query?, query?, Argument.single?_of_isVacant hbefore, Argument.single?_of_isVacant hafter]

namespace Condition

variable {c : Condition}

/-- A row that differs in values which are vacant compiles to the same query. -/
theorem value_query_of_isVacant (hbefore : c.argument.IsVacant c.operator.arity)
    (hafter : after.IsVacant c.operator.arity) (settings : Settings) (base : String) :
    (query settings base { c with argument := after }).map Noted.value =
      (query settings base c).map Noted.value := by
  by_cases hblank : c.isBlank = true
  · exact (constrainsNothing_of_isBlank (c := { c with argument := after }) hblank).trans
      (constrainsNothing_of_isBlank hblank).symm
  · have hfield : c.isBlank = false := Bool.eq_false_iff.2 hblank
    obtain ⟨id, field, operator, before⟩ := c
    cases operator with
    | unknown key => rfl
    | known verb =>
      rw [value_query_known hfield rfl, value_query_known (c := ⟨id, field, _, after⟩) hfield rfl]
      have hverb := Verb.value_query?_of_isVacant hafter hbefore settings (Text.trim field)
        (Path.under base (Text.trim field))
      have hread := congrArg (Except.map fun q? : Option Query => q?.getD .everything) hverb
      rwa [OffCalendar.map_map, OffCalendar.map_map] at hread

/-- The problem of a row whose values are vacant. -/
theorem valueProblem?_of_isVacant (h : c.argument.IsVacant c.operator.arity) (field : String) :
    c.valueProblem? field =
      match c.operator.arity with
      | .nothing => none
      | .single | .relative => some (.missingValue field c.operator.key)
      | .range => some (.incompleteRange field c.operator.key) := by
  rw [valueProblem?]
  revert h
  cases c.operator.arity with
  | nothing => exact fun _ => rfl
  | single =>
    rcases c.argument with _ | value | ⟨lower, upper⟩ | key
    case single => exact fun h => h.elim
    all_goals exact fun _ => rfl
  | range =>
    rcases c.argument with _ | value | ⟨lower, upper⟩ | key
    case range => rintro ⟨rfl, rfl⟩; rfl
    all_goals exact fun _ => rfl
  | relative =>
    rcases c.argument with _ | value | ⟨lower, upper⟩ | key
    case relative => rintro ⟨⟩; rfl
    all_goals exact fun _ => rfl

/-- A row that differs in values which are vacant has the same problems. -/
theorem validate_of_isVacant (hbefore : c.argument.IsVacant c.operator.arity)
    (hafter : after.IsVacant c.operator.arity) (catalog : Catalog) :
    validate { c with argument := after } catalog = c.validate catalog := by
  have hproblem : ∀ field, valueProblem? { c with argument := after } field =
      c.valueProblem? field := by
    intro field
    rw [valueProblem?_of_isVacant hbefore,
      valueProblem?_of_isVacant (c := { c with argument := after }) hafter]
  have h : problem? { c with argument := after } catalog = c.problem? catalog := by
    rw [problem?, problem?, hproblem]
  rw [validate, validate, h]
  rfl

/-! ## Rows that are reloaded -/

variable (hkey : Operator.ofKey c.operator.key = c.operator)
include hkey

theorem reloaded_eq_or_isVacant :
    c.reloaded = c ∨ ∃ after, c.reloaded = { c with argument := after } ∧
      c.argument.IsVacant c.operator.arity ∧ after.IsVacant c.operator.arity := by
  rw [reloaded, hkey]
  rcases Argument.eq_or_isVacant c.argument c.operator with hsame | ⟨hbefore, hafter⟩
  · exact Or.inl (by rw [hsame])
  · exact Or.inr ⟨_, rfl, hbefore, hafter⟩

/-- **A row asks for the same after it has been reloaded.** -/
theorem value_query_reloaded (settings : Settings) (base : String) :
    (c.reloaded.query settings base).map Noted.value =
      (c.query settings base).map Noted.value := by
  rcases reloaded_eq_or_isVacant hkey with hsame | ⟨after, hreloaded, hbefore, hafter⟩
  · rw [hsame]
  · rw [hreloaded, value_query_of_isVacant hbefore hafter]

/-- **A row has the same problems after it has been reloaded.** -/
theorem validate_reloaded (catalog : Catalog) :
    c.reloaded.validate catalog = c.validate catalog := by
  rcases reloaded_eq_or_isVacant hkey with hsame | ⟨after, hreloaded, hbefore, hafter⟩
  · rw [hsame]
  · rw [hreloaded, validate_of_isVacant hbefore hafter]

end Condition

end

/-! ## Groups and filters that are reloaded -/

section

variable {settings : Settings} {base : String}

theorem Condition.constraining_queries_reloaded {conditions : List Condition}
    (h : ∀ c ∈ conditions, Operator.ofKey c.operator.key = c.operator) :
    (Condition.queries settings base (conditions.map Condition.reloaded)).map Noted.constraining =
      (Condition.queries settings base conditions).map Noted.constraining := by
  induction conditions with
  | nil => rfl
  | cons c rest ih =>
    obtain ⟨hc, hrest⟩ := List.forall_mem_cons.1 h
    rw [List.map_cons, constraining_queries_cons, constraining_queries_cons,
      value_query_reloaded hc, ih hrest]

namespace Group

mutual

theorem value_query_reloaded : ∀ {g : Group},
    (∀ c ∈ g.rows, Operator.ofKey c.operator.key = c.operator) →
      (g.reloaded.query settings base).map Noted.value = (g.query settings base).map Noted.value
  | ⟨_, _, conditions, groups⟩, h => by
    rw [rows, List.forall_mem_append] at h
    rw [reloaded, value_query, value_query, Condition.constraining_queries_reloaded h.1,
      constraining_queries_reloaded h.2]

theorem constraining_queries_reloaded : ∀ {groups : List Group},
    (∀ c ∈ rowsOf groups, Operator.ofKey c.operator.key = c.operator) →
      (queries settings base (reloadedOf groups)).map Noted.constraining =
        (queries settings base groups).map Noted.constraining
  | [], _ => rfl
  | g :: rest, h => by
    rw [rowsOf, List.forall_mem_append] at h
    rw [reloadedOf, constraining_queries_cons, constraining_queries_cons, value_query_reloaded h.1,
      constraining_queries_reloaded h.2]

end

mutual

theorem isActive_reloaded : ∀ g : Group, g.reloaded.isActive = g.isActive
  | ⟨_, _, conditions, groups⟩ => by
    rw [reloaded, isActive, isActive, anyActive_reloadedOf groups, List.any_map]
    rfl

theorem anyActive_reloadedOf : ∀ groups : List Group,
    anyActive (reloadedOf groups) = anyActive groups
  | [] => rfl
  | g :: rest => by
    rw [reloadedOf, anyActive, anyActive, isActive_reloaded g, anyActive_reloadedOf rest]

end

end Group

end

namespace Filter

variable {f : Filter}

/-- The operators of these rows are the ones that their keys name. -/
theorem ofKey_key_of_forall_unknown
    (h : ∀ c ∈ f.rows, ∀ key, c.operator = .unknown key → Operator.ofKey key = .unknown key) :
    ∀ c ∈ f.rows, Operator.ofKey c.operator.key = c.operator := by
  intro c hc
  cases hoperator : c.operator with
  | known verb => exact Operator.ofKey_key_known verb
  | unknown key => exact h c hc key hoperator

theorem value_query_reloaded (h : ∀ c ∈ f.rows, Operator.ofKey c.operator.key = c.operator)
    (settings : Settings) :
    (f.reloaded.query settings).map Noted.value = (f.query settings).map Noted.value := by
  rw [value_query, value_query]
  exact congrArg _ (Group.constraining_queries_reloaded h)

theorem validate_reloaded (h : ∀ c ∈ f.rows, Operator.ofKey c.operator.key = c.operator)
    (catalog : Catalog) : f.reloaded.validate catalog = f.validate catalog := by
  have hchecked : (f.rows.map Condition.reloaded).map (fun c => c.validate catalog) =
      f.rows.map fun c => c.validate catalog := by
    rw [List.map_map]
    exact List.map_congr_left fun c hc => Condition.validate_reloaded (h c hc) catalog
  rw [validate, validate, rows_reloaded, hchecked]

/-- **A filter means the same after it has been stored and loaded**, also where its rows have values
that their operators do not take.  For every filter whose operators are verbs, or keys that are kept
as they are, what is loaded compiles to the same query on every occasion, has the same problems with
every catalog, is active if the filter was, and has rows with the same ids, fields and operators in
the same order. -/
theorem same_meaning_of_ofJson?_toJson
    (h : ∀ c ∈ f.rows, ∀ key, c.operator = .unknown key → Operator.ofKey key = .unknown key) :
    ∃ g, ofJson? f.toJson = some g ∧
      (∀ settings, (g.query settings).map Noted.value = (f.query settings).map Noted.value) ∧
      (∀ catalog, g.validate catalog = f.validate catalog) ∧
      g.isActive = f.isActive ∧
      g.rows.map (fun c => (c.id, c.field, c.operator)) =
        f.rows.map fun c => (c.id, c.field, c.operator) := by
  have hkeys := ofKey_key_of_forall_unknown h
  refine ⟨f.reloaded, ofJson?_toJson f, value_query_reloaded hkeys, validate_reloaded hkeys,
    Group.anyActive_reloadedOf f.groups, ?_⟩
  rw [rows_reloaded, List.map_map]
  refine List.map_congr_left fun c hc => ?_
  simp only [Function.comp_apply, Condition.reloaded, hkeys c hc]

/-- Rows with values that their operators do not take. -/
def misfits : Filter :=
  ⟨[⟨"g", .any, [⟨"a", "age", .known .between, .single (.text "1")⟩,
      ⟨"b", "name", .known .equals, .range (some (.text "x")) none⟩],
    [⟨"h", .all, [⟨"c", "due", .known .dateIsRelative, .nothing⟩,
      ⟨"d", "name", .unknown "sounds_like", .range none none⟩], []⟩]⟩], .all⟩

/-- None of these rows comes back with its own values. -/
theorem same_meaning_misfits :
    (∀ c ∈ misfits.rows, ∀ key, c.operator = .unknown key →
      Operator.ofKey key = .unknown key) ∧
    misfits.reloaded.rows.map Condition.argument =
      [.range none none, .nothing, .relative "", .nothing] ∧
    ∃ g, ofJson? misfits.toJson = some g ∧
      (∀ settings, (g.query settings).map Noted.value = (misfits.query settings).map Noted.value) ∧
      (∀ catalog, g.validate catalog = misfits.validate catalog) ∧
      g.isActive = misfits.isActive ∧
      g.rows.map (fun c => (c.id, c.field, c.operator)) =
        misfits.rows.map fun c => (c.id, c.field, c.operator) := by
  have hkeys : ∀ c ∈ misfits.rows, ∀ key, c.operator = .unknown key →
      Operator.ofKey key = .unknown key := by
    simp only [misfits, rows, Group.rowsOf, Group.rows, List.append_nil, List.cons_append,
      List.nil_append, List.forall_mem_cons]
    refine ⟨?_, ?_, ?_, ?_, List.forall_mem_nil _⟩
    all_goals intro key h
    all_goals cases h
    decide +kernel
  exact ⟨hkeys, rfl, same_meaning_of_ofJson?_toJson hkeys⟩

end Filter
end RecordFilter
