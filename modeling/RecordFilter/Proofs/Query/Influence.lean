import RecordFilter.Proofs.Query.Join

/-!
# What the settings reach

Compiling depends on a catalog, on the day on which weeks begin, and on a moment with its offset.
Each of them reaches only the verbs that it is there for.  A filter without such verbs is compiled
alike whatever that setting is: to the same query, with the same notes, or with the same fault.

* `Verb.comparesByKind`, `Verb.readsDays`, `Verb.readsPeriod` — the verbs that look at the catalog,
  at the offset of the moment, and at the moment itself.
* `Condition.ComparesByKind`, `Condition.AsksForWeek`, `Condition.AsksForDate`,
  `Condition.AsksForPeriod` — the rows that a setting reaches.
* `Condition.query_withCatalog` and so on — one lemma for each setting, about a row that it does not
  reach.
* `Filter.query_congr` — a filter is compiled alike where its rows are.
* `Filter.query_eq_of_unread` — the settings and whole filters.
-/

set_option autoImplicit false

namespace RecordFilter

/-! ## Verbs and rows that a setting reaches -/

namespace Verb

/-- Whether a verb compares a field with values of the field's own kind. -/
def comparesByKind : Verb → Bool
  | equals | notEquals | isIn | isNotIn => true
  | _ => false

/-- Whether a verb reads its values as days. -/
def readsDays : Verb → Bool
  | dateIs | dateIsNot | dateBefore | dateAfter | dateBetween => true
  | _ => false

/-- Whether a verb asks for a period around the moment of compiling. -/
def readsPeriod : Verb → Bool
  | dateThisWeek | dateThisMonth | dateThisYear | dateIsRelative => true
  | _ => false

end Verb

/-- Whether a period is made of weeks. -/
def Period.isWeek : Period → Bool
  | thisWeek | lastWeek | nextWeek => true
  | _ => false

namespace Condition

/-- Whether a row compares a field with values of the kind, number or boolean, that a catalog gives
the field. -/
def ComparesByKind (catalog : Option Catalog) (c : Condition) : Prop :=
  ∃ verb, c.operator = .known verb ∧ verb.comparesByKind = true ∧
    ∃ listed, catalog = some listed ∧
      (listed.kindOf (Text.trim c.field) = .number ∨ listed.kindOf (Text.trim c.field) = .boolean)

/-- Whether a row asks for this week, or for a period with the key of a week. -/
def AsksForWeek (c : Condition) : Prop :=
  c.operator = .known .dateThisWeek ∨
    c.operator = .known .dateIsRelative ∧ ∃ (key : String) (period : Period),
      c.argument = .relative key ∧ period.isWeek = true ∧ Text.trim key = period.key

/-- Whether a row asks for a period around the moment of compiling. -/
def AsksForPeriod (c : Condition) : Prop :=
  ∃ verb, c.operator = .known verb ∧ verb.readsPeriod = true

/-- Whether a row has a verb for dates. -/
def AsksForDate (c : Condition) : Prop :=
  ∃ verb, c.operator = .known verb ∧ (verb.readsDays = true ∨ verb.readsPeriod = true)

end Condition

/-! ## Trees

A tree is compiled alike for two settings where each of its rows is. -/

section

variable {settings settings' : Settings} {base : String}

theorem Condition.queries_congr {conditions : List Condition}
    (h : ∀ c ∈ conditions, c.query settings' base = c.query settings base) :
    Condition.queries settings' base conditions = Condition.queries settings base conditions := by
  induction conditions with
  | nil => rfl
  | cons c rest ih =>
    rw [List.forall_mem_cons] at h
    rw [queries, queries, h.1, ih h.2]

namespace Group

mutual

theorem query_congr : ∀ {g : Group},
    (∀ c ∈ g.rows, c.query settings' base = c.query settings base) →
      g.query settings' base = g.query settings base
  | ⟨_, _, conditions, groups⟩, h => by
    rw [rows, List.forall_mem_append] at h
    rw [query, query, Condition.queries_congr h.1, queries_congr h.2]

theorem queries_congr : ∀ {groups : List Group},
    (∀ c ∈ rowsOf groups, c.query settings' base = c.query settings base) →
      queries settings' base groups = queries settings base groups
  | [], _ => rfl
  | g :: rest, h => by
    rw [rowsOf, List.forall_mem_append] at h
    rw [queries, queries, query_congr h.1, queries_congr h.2]

end

end Group

/-- **A filter is compiled alike where its rows are.** -/
theorem Filter.query_congr {f : Filter}
    (hbase : settings'.options.fieldBase = settings.options.fieldBase)
    (h : ∀ c ∈ f.rows, ∀ base, c.query settings' base = c.query settings base) :
    f.query settings' = f.query settings := by
  rw [query, query, hbase, Group.queries_congr fun c hc => h c hc _]

/-- A row is compiled alike where its verb makes the same of its values. -/
theorem Condition.query_congr {id field : String} {operator : Operator}
    {argument argument' : Argument}
    (h : ∀ verb, operator = .known verb → ∀ path,
      verb.query? settings' (Text.trim field) path argument' =
        verb.query? settings (Text.trim field) path argument) (base : String) :
    (Condition.mk id field operator argument').query settings' base =
      (Condition.mk id field operator argument).query settings base := by
  rw [query, query]
  by_cases hblank : (Text.isBlank field || operator.isBlank) = true
  · exact (if_pos hblank).trans (if_pos hblank).symm
  · refine (if_neg hblank).trans (Eq.trans ?_ (if_neg hblank).symm)
    cases operator with
    | unknown key => rfl
    | known verb =>
      dsimp only
      rw [h verb rfl]
      rfl

end

/-! ## Catalogs -/

/-- A catalog that does not make a number or a boolean of a field takes every value as it is. -/
theorem Literal.operand?_eq_some {catalog : Option Catalog} {field : String}
    (h : ∀ listed, catalog = some listed →
      listed.kindOf field ≠ .number ∧ listed.kindOf field ≠ .boolean) (value : Literal) :
    value.operand? catalog field = some (.ofLiteral value) := by
  rcases catalog with _ | listed
  · rfl
  · obtain ⟨hnumber, hboolean⟩ := h listed rfl
    rw [operand?]
    cases hkind : listed.kindOf field <;> simp_all [FieldKind.basis]

section

variable {settings : Settings} {field path : String} {argument : Argument} {verb : Verb}

/-- A verb sees of a catalog what values of its field stand for. -/
theorem Verb.query?_withCatalog {catalog : Option Catalog}
    (h : verb.comparesByKind = true →
      Literal.operand? catalog field = Literal.operand? settings.catalog field) :
    verb.query? { settings with catalog := catalog } field path argument =
      verb.query? settings field path argument := by
  cases verb
  case equals | notEquals => simp only [query?, h rfl]
  case isIn | isNotIn =>
    have hoperands : Literal.operands? catalog field = Literal.operands? settings.catalog field := by
      funext value
      rw [Literal.operands?, Literal.operands?, h rfl]
    simp only [query?, hoperands]
  all_goals rfl

/-- Only weeks depend on the day on which weeks begin. -/
theorem Period.window?_withWeekStart {p : Period} (h : p.isWeek = false) (now : Moment)
    (weekStart weekStart' : Weekday) : p.window? now weekStart = p.window? now weekStart' := by
  cases p
  case thisWeek | lastWeek | nextWeek => cases h
  all_goals rfl

theorem Period.trim_eq_key {key : String} {p : Period} (h : ofKey? key = some p) :
    Text.trim key = p.key := by
  rw [ofKey?, ofExactKey?] at h
  have hkey : (p.key == Text.trim key) = true :=
    List.find?_some (p := fun p : Period => p.key == Text.trim key) h
  exact (beq_iff_eq.1 hkey).symm

theorem Verb.query?_withWeekStart {weekStart : Weekday} (hweek : verb ≠ .dateThisWeek)
    (hkey : verb = .dateIsRelative → ∀ (key : String) (p : Period), argument = .relative key →
      Text.trim key = p.key → p.isWeek = false) :
    verb.query?
        { settings with options := { settings.options with weekStart := weekStart } } field path
        argument = verb.query? settings field path argument := by
  cases verb
  case dateThisWeek => exact absurd rfl hweek
  case dateThisMonth =>
    simp only [query?, Query.ofPeriod?,
      Period.window?_withWeekStart (p := .thisMonth) rfl _ weekStart settings.options.weekStart]
  case dateThisYear =>
    simp only [query?, Query.ofPeriod?,
      Period.window?_withWeekStart (p := .thisYear) rfl _ weekStart settings.options.weekStart]
  case dateIsRelative =>
    rcases argument with _ | _ | _ | key
    case relative =>
      cases hperiod : Period.ofKey? key with
      | none => simp only [query?, Argument.key?, Query.ofPeriodKey?, Period.windowOfKey?, hperiod]
      | some p =>
        have hno := hkey rfl key p rfl (Period.trim_eq_key hperiod)
        simp only [query?, Argument.key?, Query.ofPeriodKey?, Period.windowOfKey?, hperiod,
          Period.window?_withWeekStart hno _ weekStart settings.options.weekStart]
    all_goals rfl
  all_goals rfl

/-- Verbs that are not for dates do not look at the moment of compiling. -/
theorem Verb.query?_withNow {now : Moment} (hdays : verb.readsDays = false)
    (hperiod : verb.readsPeriod = false) :
    verb.query? { settings with now := now } field path argument =
      verb.query? settings field path argument := by
  cases verb
  case dateIs | dateIsNot | dateBefore | dateAfter | dateBetween => cases hdays
  case dateThisWeek | dateThisMonth | dateThisYear | dateIsRelative => cases hperiod
  all_goals rfl

/-- Verbs for days look at the offset only. -/
theorem Verb.query?_withNow_of_offset {now : Moment} (hoffset : now.offset = settings.now.offset)
    (hperiod : verb.readsPeriod = false) :
    verb.query? { settings with now := now } field path argument =
      verb.query? settings field path argument := by
  cases verb
  case dateThisWeek | dateThisMonth | dateThisYear | dateIsRelative => cases hperiod
  all_goals simp only [query?, hoffset]

end

/-! ## Rows -/

namespace Condition

variable {settings : Settings} {c : Condition}

theorem operand?_of_not_comparesByKind {catalog : Option Catalog} {verb : Verb}
    (h : ¬ c.ComparesByKind catalog) (hoperator : c.operator = .known verb)
    (hverb : verb.comparesByKind = true) (value : Literal) :
    value.operand? catalog (Text.trim c.field) = some (.ofLiteral value) := by
  refine Literal.operand?_eq_some (fun listed hlisted => ⟨fun hkind => h ?_, fun hkind => h ?_⟩) value
  · exact ⟨verb, hoperator, hverb, listed, hlisted, .inl hkind⟩
  · exact ⟨verb, hoperator, hverb, listed, hlisted, .inr hkind⟩

theorem query_withCatalog {catalog : Option Catalog} (h : ¬ c.ComparesByKind settings.catalog)
    (h' : ¬ c.ComparesByKind catalog) (base : String) :
    c.query { settings with catalog := catalog } base = c.query settings base := by
  refine query_congr (fun verb hoperator path => Verb.query?_withCatalog fun hverb => ?_) base
  funext value
  rw [operand?_of_not_comparesByKind h hoperator hverb value,
    operand?_of_not_comparesByKind h' hoperator hverb value]

theorem query_withWeekStart {weekStart : Weekday} (h : ¬ c.AsksForWeek) (base : String) :
    c.query { settings with options := { settings.options with weekStart := weekStart } } base =
      c.query settings base := by
  rw [AsksForWeek, not_or] at h
  refine query_congr (fun verb hoperator path => Verb.query?_withWeekStart ?_ ?_) base
  · rintro rfl
    exact h.1 hoperator
  · rintro rfl key p hargument hkey
    refine Bool.eq_false_iff.2 fun hweek => h.2 ⟨hoperator, key, p, hargument, hweek, hkey⟩

theorem query_withNow {now : Moment} (h : ¬ c.AsksForDate) (base : String) :
    c.query { settings with now := now } base = c.query settings base := by
  refine query_congr (fun verb hoperator path => Verb.query?_withNow ?_ ?_) base
  · exact Bool.eq_false_iff.2 fun hdays => h ⟨verb, hoperator, .inl hdays⟩
  · exact Bool.eq_false_iff.2 fun hperiod => h ⟨verb, hoperator, .inr hperiod⟩

theorem query_withNow_of_offset {now : Moment} (hoffset : now.offset = settings.now.offset)
    (h : ¬ c.AsksForPeriod) (base : String) :
    c.query { settings with now := now } base = c.query settings base := by
  refine query_congr (fun verb hoperator path => Verb.query?_withNow_of_offset hoffset ?_) base
  exact Bool.eq_false_iff.2 fun hperiod => h ⟨verb, hoperator, hperiod⟩

end Condition

/-! ## Filters -/

namespace Filter

/-- **Each setting reaches only the rows it is for.**  A filter is compiled alike with two catalogs
if no row compares by a kind that one of them gives, with two first days of the week if no row asks
for a week, with two moments if no row has a verb for dates, and with two moments of one offset if
no row asks for a period. -/
theorem query_eq_of_unread (settings : Settings) (f : Filter) :
    (∀ catalog : Option Catalog,
      (∀ c ∈ f.rows, ¬ c.ComparesByKind settings.catalog ∧ ¬ c.ComparesByKind catalog) →
        f.query { settings with catalog := catalog } = f.query settings) ∧
    (∀ weekStart : Weekday, (∀ c ∈ f.rows, ¬ c.AsksForWeek) →
      f.query { settings with options := { settings.options with weekStart := weekStart } } =
        f.query settings) ∧
    (∀ now : Moment, (∀ c ∈ f.rows, ¬ c.AsksForDate) →
      f.query { settings with now := now } = f.query settings) ∧
    (∀ now : Moment, now.offset = settings.now.offset → (∀ c ∈ f.rows, ¬ c.AsksForPeriod) →
      f.query { settings with now := now } = f.query settings) := by
  refine ⟨fun catalog h => ?_, fun weekStart h => ?_, fun now h => ?_, fun now hoffset h => ?_⟩
  · exact query_congr rfl fun c hc => Condition.query_withCatalog (h c hc).1 (h c hc).2
  · exact query_congr rfl fun c hc => Condition.query_withWeekStart (h c hc)
  · exact query_congr rfl fun c hc => Condition.query_withNow (h c hc)
  · exact query_congr rfl fun c hc => Condition.query_withNow_of_offset hoffset (h c hc)

/-- A text field compared with a value, a rolling period and a day, and the settings that they are
compiled alike for. -/
theorem query_eq_of_unread_single_rows :
    (¬ Condition.ComparesByKind none ⟨"1", "name", .known .equals, .single (.text "Ada")⟩ ∧
      ¬ Condition.ComparesByKind (some ⟨[⟨"age", "Age", .number⟩]⟩)
        ⟨"1", "name", .known .equals, .single (.text "Ada")⟩ ∧
      query { Settings.atEpoch with catalog := some ⟨[⟨"age", "Age", .number⟩]⟩ }
          ⟨[⟨"a", .all, [⟨"1", "name", .known .equals, .single (.text "Ada")⟩], []⟩], .all⟩ =
        query .atEpoch
          ⟨[⟨"a", .all, [⟨"1", "name", .known .equals, .single (.text "Ada")⟩], []⟩], .all⟩) ∧
    (¬ Condition.AsksForWeek ⟨"1", "since", .known .dateIsRelative, .relative "last_30_days"⟩ ∧
      query { Settings.atEpoch with options := ⟨"", .monday⟩ }
          ⟨[⟨"a", .all, [⟨"1", "since", .known .dateIsRelative, .relative "last_30_days"⟩], []⟩],
            .all⟩ =
        query .atEpoch
          ⟨[⟨"a", .all, [⟨"1", "since", .known .dateIsRelative, .relative "last_30_days"⟩], []⟩],
            .all⟩) ∧
    (¬ Condition.AsksForDate ⟨"1", "name", .known .equals, .single (.text "Ada")⟩ ∧
      query { Settings.atEpoch with now := ⟨⟨86400, 0, by decide, by decide⟩, ⟨3600, by decide⟩⟩ }
          ⟨[⟨"a", .all, [⟨"1", "name", .known .equals, .single (.text "Ada")⟩], []⟩], .all⟩ =
        query .atEpoch
          ⟨[⟨"a", .all, [⟨"1", "name", .known .equals, .single (.text "Ada")⟩], []⟩], .all⟩) ∧
    Offset.zero = Settings.atEpoch.now.offset ∧
    ¬ Condition.AsksForPeriod ⟨"1", "since", .known .dateIs, .single (.text "2024-02-29")⟩ ∧
    query { Settings.atEpoch with now := ⟨⟨86400, 0, by decide, by decide⟩, .zero⟩ }
        ⟨[⟨"a", .all, [⟨"1", "since", .known .dateIs, .single (.text "2024-02-29")⟩], []⟩], .all⟩ =
      query .atEpoch
        ⟨[⟨"a", .all, [⟨"1", "since", .known .dateIs, .single (.text "2024-02-29")⟩], []⟩],
          .all⟩ := by
  have hnone : ¬ Condition.ComparesByKind none
      ⟨"1", "name", .known .equals, .single (.text "Ada")⟩ := by
    simp [Condition.ComparesByKind]
  have hkind : ¬ Condition.ComparesByKind (some ⟨[⟨"age", "Age", .number⟩]⟩)
      ⟨"1", "name", .known .equals, .single (.text "Ada")⟩ := by
    have hname : Text.trim "name" = "name" := by decide
    simp [Condition.ComparesByKind, Catalog.kindOf, Catalog.find?, hname]
  have hweek : ¬ Condition.AsksForWeek
      ⟨"1", "since", .known .dateIsRelative, .relative "last_30_days"⟩ := by
    have hkey : Text.trim "last_30_days" = "last_30_days" := by decide
    rintro (hoperator | ⟨-, key, period, hargument, hperiod, htrim⟩)
    · simp at hoperator
    · obtain rfl : "last_30_days" = key := by simpa using hargument
      cases period <;> simp_all [Period.isWeek, Period.key]
  have hdate : ¬ Condition.AsksForDate ⟨"1", "name", .known .equals, .single (.text "Ada")⟩ := by
    simp [Condition.AsksForDate, Verb.readsDays, Verb.readsPeriod]
  have hperiod : ¬ Condition.AsksForPeriod
      ⟨"1", "since", .known .dateIs, .single (.text "2024-02-29")⟩ := by
    simp [Condition.AsksForPeriod, Verb.readsPeriod]
  refine ⟨⟨hnone, hkind, ?_⟩, ⟨hweek, ?_⟩, ⟨hdate, ?_⟩, rfl, hperiod, ?_⟩
  · exact (query_eq_of_unread .atEpoch _).1 _ (List.forall_mem_singleton.2 ⟨hnone, hkind⟩)
  · exact (query_eq_of_unread .atEpoch _).2.1 .monday (List.forall_mem_singleton.2 hweek)
  · exact (query_eq_of_unread .atEpoch _).2.2.1 _ (List.forall_mem_singleton.2 hdate)
  · exact (query_eq_of_unread .atEpoch _).2.2.2 _ rfl (List.forall_mem_singleton.2 hperiod)

/-- Where a catalog makes a boolean of the field, it is seen. -/
example :
    (query { Settings.atEpoch with catalog := some ⟨[⟨"vip", "", .boolean⟩]⟩ }
        ⟨[⟨"a", .all, [⟨"1", "vip", .known .equals, .single (.text "true")⟩], []⟩], .all⟩).map
      (fun found => found.value.accepts (.object [("vip", .bool true)])) = .ok true ∧
    (query .atEpoch
        ⟨[⟨"a", .all, [⟨"1", "vip", .known .equals, .single (.text "true")⟩], []⟩], .all⟩).map
      (fun found => found.value.accepts (.object [("vip", .bool true)])) = .ok false :=
  ⟨rfl, rfl⟩

end Filter
end RecordFilter
