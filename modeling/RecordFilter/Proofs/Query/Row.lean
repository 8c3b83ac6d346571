import RecordFilter.Proofs.Query.Fault
import RecordFilter.Proofs.Query.Thinning

/-!
# The query of one row

A row compiles to what its verb makes of its values, or to the query that constrains nothing.  This
file says so for the query alone, without its notes, and says what the queries of all verbs have in
common.

* `FieldTests` — the tests of one field that a verb asks for.
* `Verb.findsWideTests` — a verb reads its values and finds its tests without looking at the path,
  which only says where the tests are put; under a connective it puts two tests or more.
* `Condition.value_query_known` — a row with a field and a verb compiles to what the verb makes of
  its values.
* `Condition.exists_query?_of_query` — and to the query that constrains nothing exactly when the
  verb makes nothing of them.  A row without a field is `Condition.constrainsNothing_of_isBlank`.
* `Verb.CompilesTo` — rows that leave no note, whatever their field: `Verb.compilesTo_atField`.
-/

set_option autoImplicit false

namespace RecordFilter

/-! ## What verbs make of values

A verb reads its values first, and makes a query of what it has read.  The path of the field has no
part in the reading. -/

namespace Query

/-- The two numbers that the ends of a range are read as. -/
def numbers? (ends : Option (Literal × Literal)) : Option (FiniteDouble × FiniteDouble) :=
  ends.bind fun ends => ends.1.number?.bind fun low => ends.2.number?.map (low, ·)

/-- The time from the first millisecond of one day to the last millisecond of another one.  The
second day is looked at only if there is a first one. -/
def daysWindow? (offset : Offset) :
    Option (Literal × Literal) → Except OffCalendar (Option Window)
  | none => .ok none
  | some ends => do
    match ← ends.1.dayWindow? offset with
    | none => return none
    | some first => return (← ends.2.dayWindow? offset).map fun last => ⟨first.start, last.finish⟩

/-- The query for two numbers is made of the two numbers. -/
theorem ofNumbers?_eq_map (ends : Option (Literal × Literal)) (query : Operand → Operand → Query) :
    ofNumbers? ends query = (numbers? ends).map fun numbers =>
      query (.number (.finite numbers.1)) (.number (.finite numbers.2)) := by
  cases ends with
  | none => rfl
  | some ends =>
    show (ends.1.number?.bind fun low => ends.2.number?.bind fun high => some _) =
      (ends.1.number?.bind fun low => ends.2.number?.map (low, ·)).map _
    cases ends.1.number? with
    | none => rfl
    | some low => cases ends.2.number? <;> rfl

/-- The query for a day is made of the first and the last millisecond of the day. -/
theorem orFault_ofDay? (offset : Offset) (value : Option Literal)
    (query : Operand → Operand → Query) :
    orFault (ofDay? offset value query) =
      (value.elim (.ok none) (Literal.dayWindow? offset)).map fun window? =>
        ⟨window?.map fun window => query (.date window.start) (.date window.finish), []⟩ := by
  cases value with
  | none => rfl
  | some value =>
    show orFault ((value.dayWindow? offset).map _) = (value.dayWindow? offset).map _
    cases value.dayWindow? offset <;> rfl

/-- The query for the time from one day to another one is made of the first millisecond of the one
and the last millisecond of the other. -/
theorem ofDays?_eq_map (path : String) (offset : Offset) (ends : Option (Literal × Literal)) :
    ofDays? path offset ends = (daysWindow? offset ends).map fun window? =>
      window?.map (inWindow path) := by
  cases ends with
  | none => rfl
  | some ends =>
    rw [ofDays?, daysWindow?]
    cases ends.1.dayWindow? offset with
    | error fault => rfl
    | ok first =>
      cases first with
      | none => rfl
      | some first =>
        cases ends.2.dayWindow? offset with
        | error fault => rfl
        | ok last => cases last <;> rfl

end Query

/-- The tests of one field that a verb asks for: a single one, all of several, or any of several. -/
inductive FieldTests where
  | one (test : Test)
  | several (connective : Connective) (tests : List Test)

/-- The query that these tests make for the field at a path. -/
def FieldTests.at (path : String) : FieldTests → Query
  | one test => .field path test
  | several connective tests => .combine connective (tests.map (.field path))

/-- Whether there are two tests or more under a connective. -/
def FieldTests.IsWide : FieldTests → Prop
  | one _ => True
  | several _ tests => 2 ≤ tests.length

theorem FieldTests.at_ne (path : String) (tests : FieldTests) : tests.at path ≠ .everything := by
  cases tests with
  | one test => exact nofun
  | several connective tests => cases connective <;> exact nofun

namespace Verb

/-- Whether tests are found first, and put to the field at a path afterwards. -/
def FindsTests (query : String → Except OffCalendar (Noted (Option Query))) : Prop :=
  ∃ found : Except OffCalendar (Noted (Option FieldTests)), ∀ path,
    query path = found.map fun noted => noted.map fun tests? => tests?.map (FieldTests.at path)

/-- The same for tests of which two or more stand under a connective. -/
def FindsWideTests (query : String → Except OffCalendar (Noted (Option Query))) : Prop :=
  ∃ found : Except OffCalendar (Noted (Option FieldTests)),
    (∀ noted, found = .ok noted → ∀ tests ∈ noted.value, tests.IsWide) ∧
    ∀ path,
      query path = found.map fun noted => noted.map fun tests? => tests?.map (FieldTests.at path)

variable {α : Type} {tests : α → FieldTests}

theorem findsWideTests_orFault (values : Except OffCalendar (Option α))
    (hwide : ∀ a, (tests a).IsWide) :
    FindsWideTests fun path =>
      values.map fun values? => ⟨values?.map fun a => (tests a).at path, []⟩ := by
  refine ⟨values.map fun values? => ⟨values?.map tests, []⟩, ?_, fun path => ?_⟩
  · intro noted hnoted found hfound
    obtain ⟨values?, -, rfl⟩ := OffCalendar.map_eq_ok_iff.1 hnoted
    obtain ⟨a, -, rfl⟩ := Option.map_eq_some_iff.1 hfound
    exact hwide a
  · cases values with
    | error fault => rfl
    | ok values? => cases values? <;> rfl

theorem findsWideTests_quietly (values : Option α) (hwide : ∀ a, (tests a).IsWide) :
    FindsWideTests fun path => Query.quietly (values.map fun a => (tests a).at path) :=
  findsWideTests_orFault (.ok values) hwide

theorem findsWideTests_ofNumbers? (ends : Option (Literal × Literal))
    {tests : Operand → Operand → FieldTests} (hwide : ∀ x y, (tests x y).IsWide) :
    FindsWideTests fun path =>
      Query.quietly (Query.ofNumbers? ends fun x y => (tests x y).at path) := by
  simp only [Query.ofNumbers?_eq_map]
  exact findsWideTests_quietly (Query.numbers? ends) fun numbers =>
    hwide (.number (.finite numbers.1)) (.number (.finite numbers.2))

theorem findsWideTests_ofDay? (offset : Offset) (value : Option Literal)
    {tests : Operand → Operand → FieldTests} (hwide : ∀ x y, (tests x y).IsWide) :
    FindsWideTests fun path =>
      Query.orFault (Query.ofDay? offset value fun x y => (tests x y).at path) := by
  simp only [Query.orFault_ofDay?]
  exact findsWideTests_orFault _ fun window : Window =>
    hwide (.date window.start) (.date window.finish)

theorem findsWideTests_inWindow (window? : Except OffCalendar (Option Window)) :
    FindsWideTests fun path =>
      Query.orFault (window?.map fun window? => window?.map (Query.inWindow path)) := by
  simp only [Query.orFault, OffCalendar.map_map]
  have hwide : ∀ window : Window,
      (FieldTests.one (.between (.date window.start) (.date window.finish))).IsWide :=
    fun _ => trivial
  exact findsWideTests_orFault window? hwide

theorem findsWideTests_ofPeriodKey? (settings : Settings) (key : Option String) :
    FindsWideTests fun path => Query.ofPeriodKey? path settings key := by
  cases key with
  | none =>
    refine ⟨.ok ⟨none, []⟩, ?_, fun path => rfl⟩
    intro noted hnoted tests htests
    obtain rfl := Except.ok.inj hnoted
    exact absurd htests (Option.not_mem_none tests)
  | some key =>
    refine ⟨(Period.windowOfKey? key settings.now settings.options.weekStart).map fun found =>
      found.map fun window? => window?.map fun window =>
        .one (.between (.date window.start) (.date window.finish)), ?_, fun path => ?_⟩
    · intro noted hnoted tests htests
      obtain ⟨found, -, rfl⟩ := OffCalendar.map_eq_ok_iff.1 hnoted
      obtain ⟨window, -, rfl⟩ := Option.map_eq_some_iff.1 htests
      exact trivial
    · show (Period.windowOfKey? key settings.now settings.options.weekStart).map _ = _
      rw [OffCalendar.map_map]
      cases Period.windowOfKey? key settings.now settings.options.weekStart with
      | error fault => rfl
      | ok found =>
        rcases found with ⟨_ | window, notes⟩
        · rfl
        · rfl

/-- **A verb finds its tests without looking at the path**, and puts two or more under a connective.
-/
theorem findsWideTests (settings : Settings) (field : String) (argument : Argument) (verb : Verb) :
    FindsWideTests fun path => verb.query? settings field path argument := by
  have one : ∀ {α : Type} (test : α → Test) (a : α), (FieldTests.one (test a)).IsWide :=
    fun _ _ => trivial
  have two : ∀ (first second : Operand → Test) (x y : Operand),
      (FieldTests.several .any [first x, second y]).IsWide := fun _ _ _ _ => Nat.le_refl 2
  cases verb
  case contains => exact findsWideTests_quietly _ (one fun s => .fits (.contains s))
  case notContains => exact findsWideTests_quietly _ (one fun s => .failsToFit (.contains s))
  case startsWith => exact findsWideTests_quietly _ (one fun s => .fits (.startsWith s))
  case endsWith => exact findsWideTests_quietly _ (one fun s => .fits (.endsWith s))
  case equals => exact findsWideTests_quietly _ (one .equals)
  case notEquals => exact findsWideTests_quietly _ (one .differs)
  case isIn => exact findsWideTests_quietly _ (one .oneOf)
  case isNotIn => exact findsWideTests_quietly _ (one .noneOf)
  case isTrue => exact findsWideTests_quietly (some true) (one fun b => .equals (.bool b))
  case isFalse => exact findsWideTests_quietly (some false) (one fun b => .equals (.bool b))
  case isEmpty =>
    have hwide : ∀ expected, (FieldTests.several .any [.isPresent expected, .equals .null,
        .equals (.text ""), .equals (.list [])]).IsWide := fun _ => Nat.le_add_left 2 2
    exact findsWideTests_quietly (some false) hwide
  case isNotEmpty =>
    have hwide : ∀ expected, (FieldTests.several .all [.isPresent expected, .differs .null,
        .differs (.text ""), .differs (.list [])]).IsWide := fun _ => Nat.le_add_left 2 2
    exact findsWideTests_quietly (some true) hwide
  case greaterThan => exact findsWideTests_quietly _ (one fun x => .above (.number (.finite x)))
  case greaterThanOrEqual =>
    exact findsWideTests_quietly _ (one fun x => .atLeast (.number (.finite x)))
  case lessThan => exact findsWideTests_quietly _ (one fun x => .below (.number (.finite x)))
  case lessThanOrEqual =>
    exact findsWideTests_quietly _ (one fun x => .atMost (.number (.finite x)))
  case between => exact findsWideTests_ofNumbers? _ fun low => one (.between low)
  case notBetween => exact findsWideTests_ofNumbers? _ (two .below .above)
  case dateIs => exact findsWideTests_ofDay? _ _ fun first => one (.between first)
  case dateIsNot => exact findsWideTests_ofDay? _ _ (two .below .above)
  case dateBefore => exact findsWideTests_ofDay? _ _ fun first _ => one .below first
  case dateAfter => exact findsWideTests_ofDay? _ _ fun _ last => one .above last
  case dateBetween =>
    simp only [query?, Query.ofDays?_eq_map]
    exact findsWideTests_inWindow _
  case dateThisWeek | dateThisMonth | dateThisYear => exact findsWideTests_inWindow _
  case dateIsRelative => exact findsWideTests_ofPeriodKey? settings argument.key?

theorem findsTests (settings : Settings) (field : String) (argument : Argument) (verb : Verb) :
    FindsTests fun path => verb.query? settings field path argument := by
  obtain ⟨found, -, hfound⟩ := findsWideTests settings field argument verb
  exact ⟨found, hfound⟩

/-- What a verb makes of values constrains something. -/
theorem query?_ne_everything {settings : Settings} {field path : String} {argument : Argument}
    {verb : Verb} {made : Noted (Option Query)}
    (h : verb.query? settings field path argument = .ok made) : made.value ≠ some .everything := by
  obtain ⟨found, hfound⟩ := findsTests settings field argument verb
  have hmade := (hfound path).symm.trans h
  cases found with
  | error fault => exact nomatch hmade
  | ok tests =>
    obtain rfl := Except.ok.inj hmade
    intro hnothing
    obtain ⟨tests, -, hat⟩ := Option.map_eq_some_iff.1 hnothing
    exact FieldTests.at_ne path tests hat

end Verb

/-! ## Rows -/

namespace Condition

variable {settings : Settings} {base : String} {c : Condition}

/-- **A row with a field and a verb compiles to what the verb makes of its values**, and constrains
nothing where the verb makes nothing of them. -/
theorem value_query_known {verb : Verb} (hfield : c.isBlank = false)
    (hverb : c.operator = .known verb) :
    (c.query settings base).map Noted.value =
      (verb.query? settings (Text.trim c.field) (Path.under base (Text.trim c.field))
        c.argument).map fun found => found.value.getD .everything := by
  rw [query, hfield, hverb, Operator.isBlank_known, Bool.or_false, if_neg Bool.false_ne_true]
  dsimp only
  cases verb.query? settings (Text.trim c.field) (Path.under base (Text.trim c.field))
      c.argument with
  | error fault => rfl
  | ok found =>
    cases hvalue : found.value with
    | none => simp [Except.map, hvalue]
    | some q => simp [Except.map, hvalue]

/-- A query that a verb finds without a note is the query of the row. -/
theorem query_of_quietly {verb : Verb} {q : Query} (hfield : c.isBlank = false)
    (hverb : c.operator = .known verb)
    (h : verb.query? settings (Text.trim c.field) (Path.under base (Text.trim c.field))
      c.argument = Query.quietly (some q)) :
    c.query settings base = .ok ⟨q, []⟩ := by
  rw [query, hfield, hverb, Operator.isBlank_known, Bool.or_false, if_neg Bool.false_ne_true]
  dsimp only
  rw [h]
  rfl

/-- A row with a field and a verb constrains nothing exactly when the verb makes nothing of its
values. -/
theorem exists_query?_of_query {verb : Verb} (hfield : c.isBlank = false)
    (hverb : c.operator = .known verb) {found : Noted Query}
    (h : c.query settings base = .ok found) :
    ∃ made, verb.query? settings (Text.trim c.field) (Path.under base (Text.trim c.field))
        c.argument = .ok made ∧ (found.value = .everything ↔ made.value = none) := by
  have hvalue := (value_query_known hfield hverb).symm.trans (congrArg (Except.map Noted.value) h)
  cases hmade : verb.query? settings (Text.trim c.field) (Path.under base (Text.trim c.field))
      c.argument with
  | error fault => rw [hmade] at hvalue; exact nomatch hvalue
  | ok made =>
    refine ⟨made, rfl, ?_⟩
    have hne := Verb.query?_ne_everything hmade
    rw [hmade] at hvalue
    have hfound : made.value.getD .everything = found.value := Except.ok.inj hvalue
    rw [← hfound]
    cases hq : made.value with
    | none => simp
    | some q => simpa [hq] using hne

end Condition

/-! ## Rows that leave no note -/

/-- A query for a path, at the path of a field below `base`; a field without a name constrains
nothing. -/
def Query.atField (base field : String) (query : String → Query) : Query :=
  if Text.isBlank field then .everything else query (Path.under base (Text.trim field))

theorem Query.atField_of_named {field : String} (h : Text.isBlank field = false) (base : String)
    (query : String → Query) :
    atField base field query = query (Path.under base (Text.trim field)) := by
  rw [atField, h, if_neg Bool.false_ne_true]

/-- Whether the rows with this field, this verb and these values compile to a query, whatever their
id, and leave no note. -/
def Verb.CompilesTo (verb : Verb) (settings : Settings) (base field : String) (argument : Argument)
    (q : Query) : Prop :=
  ∀ id, (Condition.mk id field (.known verb) argument).query settings base = .ok ⟨q, []⟩

/-- What a verb finds without a note at the path of a field is what the rows compile to, and a field
without a name makes the rows constrain nothing whatever the verb finds. -/
theorem Verb.compilesTo_atField {settings : Settings} {base field : String} {argument : Argument}
    {verb : Verb} {query : String → Query}
    (h : ∀ path, verb.query? settings (Text.trim field) path argument =
      Query.quietly (some (query path))) :
    verb.CompilesTo settings base field argument (.atField base field query) := by
  intro id
  cases hfield : Text.isBlank field with
  | false =>
    rw [Query.atField_of_named hfield]
    exact Condition.query_of_quietly hfield rfl (h _)
  | true =>
    rw [Query.atField, Condition.query, Condition.isBlank, hfield, Bool.true_or, if_pos rfl,
      if_pos rfl]

end RecordFilter
