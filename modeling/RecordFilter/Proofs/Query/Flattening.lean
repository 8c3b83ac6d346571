import RecordFilter.Proofs.Query.Saying
import RecordFilter.Proofs.Query.Search

/-!
# A filter and the list of its rows

A plain list of rows asks for all of them.  A filter asks for more than that only by its groups: where
no two parts stand together but below *all*, its groups can be forgotten.

* `Filter.AsksForAll` — whether that is so.  A group with a single part may have either connective.
* `Filter.said_of_asksForAll` — such a filter says what its rows say together.
* `Filter.value_query_ofRows` — the query of a list of rows does not depend on the ids that its
  filter is given.
* `SavedFilter.accepts_simple_rows` — a view with the list of the rows and a view with the filter
  find the same records; the two are active together, and going over to the filter of a view keeps
  its rows and its query.
-/

set_option autoImplicit false

namespace RecordFilter

/-! ## Asking for all rows -/

/-- Whether a filter asks for all of its rows: wherever two or more parts stand together, among its
groups or inside a group at any depth, they stand below *all*. -/
structure Filter.AsksForAll (f : Filter) : Prop where
  connective : 2 ≤ f.groups.length → f.connective = .all
  groups : ∀ g ∈ Group.subgroupsOf f.groups,
    2 ≤ g.conditions.length + g.groups.length → g.connective = .all

theorem Connective.answer?_eq_all {connective : Connective} {answers : List (Option Bool)}
    (h : 2 ≤ answers.length → connective = .all) :
    connective.answer? answers = all.answer? answers := by
  by_cases hlength : answers.length < 2
  · exact answer?_eq_of_length_lt hlength connective all
  · rw [h (Nat.not_lt.1 hlength)]

namespace Group

variable (row : Condition → Option Bool)

mutual

theorem said_eq_all : ∀ {g : Group},
    (∀ h ∈ g.subgroups, 2 ≤ h.conditions.length + h.groups.length → h.connective = .all) →
      g.said row = Connective.all.answer? (g.rows.map row)
  | ⟨id, connective, conditions, groups⟩, hall => by
    rw [subgroups, List.forall_mem_cons] at hall
    obtain ⟨hown, hbelow⟩ := hall
    have hlength : (conditions.map row ++ groups.map (said row)).length =
        conditions.length + groups.length := by simp
    rw [said_eq, Connective.answer?_eq_all (hlength ▸ hown), Connective.answer?_append,
      answer?_said_eq_all hbelow, ← Connective.answer?_append, ← List.map_append, rows]

/-- Groups that ask for all of their rows say together what all of these rows say. -/
theorem answer?_said_eq_all : ∀ {groups : List Group},
    (∀ h ∈ subgroupsOf groups, 2 ≤ h.conditions.length + h.groups.length → h.connective = .all) →
      Connective.all.answer? (groups.map (said row)) =
        Connective.all.answer? ((rowsOf groups).map row)
  | [], _ => rfl
  | g :: rest, hall => by
    rw [subgroupsOf, List.forall_mem_append] at hall
    rw [List.map_cons, Connective.answer?_cons, said_eq_all hall.1, answer?_said_eq_all hall.2,
      ← Connective.answer?_append, ← List.map_append, rowsOf]

end

/-! ## Activity -/

mutual

theorem isActive_eq_any : ∀ g : Group, g.isActive = g.rows.any fun c => !c.isBlank
  | ⟨_, _, conditions, groups⟩ => by
    rw [isActive, rows, List.any_append, anyActive_eq_any groups]

theorem anyActive_eq_any : ∀ groups : List Group,
    anyActive groups = (rowsOf groups).any fun c => !c.isBlank
  | [] => rfl
  | g :: rest => by
    rw [anyActive, rowsOf, List.any_append, isActive_eq_any g, anyActive_eq_any rest]

end

end Group

namespace Filter

variable {f : Filter} {row : Condition → Option Bool}

/-- **A filter that asks for all of its rows says what they say together.** -/
theorem said_of_asksForAll (h : f.AsksForAll) :
    f.said row = Connective.all.answer? (f.rows.map row) := by
  have hconnective : 2 ≤ (f.groups.map (Group.said row)).length → f.connective = .all := by
    simpa using h.connective
  rw [said, Connective.answer?_eq_all hconnective, Group.answer?_said_eq_all row h.groups, rows]

/-! ## The filter of a list of rows -/

theorem rows_ofRows {conditions : List Condition} (h : conditions ≠ []) (fresh : FreshIds) :
    (ofRows fresh conditions).rows = conditions := by
  simp [ofRows, rows, Group.rowsOf, Group.rows, h]

/-- The filter of a list of rows says what they say together.  The blank row that it has for an
empty list says nothing. -/
theorem said_ofRows (fresh : FreshIds) (hblank : row (.blank fresh.row) = none)
    (conditions : List Condition) :
    (ofRows fresh conditions).said row = Connective.all.answer? (conditions.map row) := by
  rcases conditions with _ | ⟨c, rest⟩
  · simp [ofRows, said, Group.said, Group.saidEach, hblank, Connective.answer?]
  · simp [ofRows, said, Group.said, Group.saidEach, Connective.answer?_singleton]

theorem isActive_ofRows (fresh : FreshIds) (conditions : List Condition) :
    (ofRows fresh conditions).isActive = conditions.any fun c => !c.isBlank := by
  rcases conditions with _ | ⟨c, rest⟩
  · rfl
  · rw [isActive, Group.anyActive_eq_any, ← rows, rows_ofRows (List.cons_ne_nil c rest)]

/-- **The ids that are made for a list of rows do not show in its query.** -/
theorem value_query_ofRows (settings : Settings) (fresh fresh' : FreshIds)
    (conditions : List Condition) :
    ((ofRows fresh conditions).query settings).map Noted.value =
      ((ofRows fresh' conditions).query settings).map Noted.value := by
  rcases conditions with _ | ⟨c, rest⟩
  · rfl
  · simp only [value_query, ofRows, Group.constraining_queries_cons, Group.value_query,
      List.isEmpty_cons, Bool.false_eq_true, if_false]

end Filter

/-! ## Views -/

namespace SavedFilter

variable {settings : Settings} {fresh fresh' : FreshIds}

/-- A view with the rows of a filter says what the filter says. -/
theorem answer?_of_query_simple {f : Filter} (h : f.AsksForAll) {flat whole : Noted Query}
    (hflat : (simple f.rows).query settings fresh = .ok flat)
    (hwhole : (advanced f).query settings fresh' = .ok whole) (record : Json) :
    flat.value.answer? record = whole.value.answer? record := by
  have hblank : Condition.said settings settings.options.fieldBase record (.blank fresh.row) =
      none := rfl
  rw [Filter.answer?_of_query record hflat, Filter.answer?_of_query record hwhole]
  exact (Filter.said_ofRows fresh hblank f.rows).trans (Filter.said_of_asksForAll h).symm

/-- **A filter and the list of its rows agree where they should.**  A filter that asks for all of its
rows compiles when the list of its rows does, and with any search both find the same records.  Any
filter is active when the list of its rows is, and any view is active when the filter that it has is.
That filter has the rows of the view, if there are any, and the query of the view. -/
theorem accepts_simple_rows (settings : Settings) (fresh fresh' : FreshIds) :
    (∀ f : Filter, f.AsksForAll → ∀ (text : String) (fields : List String),
      ((∃ flat, (simple f.rows).queryWithSearch settings fresh text fields = .ok flat) ↔
        ∃ whole, (advanced f).queryWithSearch settings fresh' text fields = .ok whole) ∧
      ∀ flat whole : Noted Query,
        (simple f.rows).queryWithSearch settings fresh text fields = .ok flat →
        (advanced f).queryWithSearch settings fresh' text fields = .ok whole →
        ∀ record : Json, flat.value.accepts record = whole.value.accepts record) ∧
    (∀ f : Filter, (simple f.rows).isActive = f.isActive) ∧
    (∀ saved : SavedFilter, saved.isActive = (saved.toFilter fresh).isActive) ∧
    ∀ conditions : List Condition,
      (conditions ≠ [] → (Filter.ofRows fresh conditions).rows = conditions) ∧
      ((simple conditions).query settings fresh).map Noted.value =
        ((Filter.ofRows fresh' conditions).query settings).map Noted.value := by
  refine ⟨fun f hall text fields => ⟨?_, ?_⟩, fun f => ?_, fun saved => ?_, fun conditions =>
    ⟨fun hne => Filter.rows_ofRows hne fresh, Filter.value_query_ofRows settings fresh fresh' _⟩⟩
  · rw [OffCalendar.exists_ok_iff, OffCalendar.exists_ok_iff, query_eq_error_iff,
      query_eq_error_iff]
    rfl
  · intro flat whole hflat hwhole record
    rw [queryWithSearch_eq] at hflat hwhole
    obtain ⟨rowsQuery, hrows, rfl⟩ := OffCalendar.map_eq_ok_iff.1 hflat
    obtain ⟨filterQuery, hfilter, rfl⟩ := OffCalendar.map_eq_ok_iff.1 hwhole
    simp only [Noted.map, Query.accepts_narrowed, Query.accepts_eq_getD record rowsQuery.value,
      Query.accepts_eq_getD record filterQuery.value,
      answer?_of_query_simple hall hrows hfilter record]
  · rw [Filter.isActive, Group.anyActive_eq_any]
    rfl
  · cases saved with
    | simple conditions => exact (Filter.isActive_ofRows fresh conditions).symm
    | advanced filter => rfl

/-- Two groups with *any*, of a single part each: the one has two rows in a group of its own, and the
other has one row. -/
theorem accepts_simple_rows_of_single_parts :
    Filter.AsksForAll
      ⟨[⟨"a", .any, [], [⟨"b", .all, [⟨"1", "vip", .known .isTrue, .nothing⟩, .blank "2"], []⟩]⟩,
        ⟨"c", .any, [⟨"3", "new", .known .isTrue, .nothing⟩], []⟩], .all⟩ ∧
    (∃ flat whole : Noted Query,
      queryWithSearch .atEpoch ⟨"group", "row"⟩
        (simple [⟨"1", "vip", .known .isTrue, .nothing⟩, .blank "2",
          ⟨"3", "new", .known .isTrue, .nothing⟩]) "ada" ["name"] = .ok flat ∧
      queryWithSearch .atEpoch ⟨"group", "row"⟩
        (advanced ⟨[⟨"a", .any, [],
            [⟨"b", .all, [⟨"1", "vip", .known .isTrue, .nothing⟩, .blank "2"], []⟩]⟩,
          ⟨"c", .any, [⟨"3", "new", .known .isTrue, .nothing⟩], []⟩], .all⟩) "ada" ["name"] =
            .ok whole ∧
      ∀ record : Json, flat.value.accepts record = whole.value.accepts record) ∧
    ([.blank "2"] : List Condition) ≠ [] ∧
    (Filter.ofRows ⟨"group", "row"⟩ [.blank "2"]).rows = [.blank "2"] := by
  obtain ⟨hquery, -, -, hrows⟩ := accepts_simple_rows .atEpoch ⟨"group", "row"⟩ ⟨"group", "row"⟩
  have hall : Filter.AsksForAll
      ⟨[⟨"a", .any, [], [⟨"b", .all, [⟨"1", "vip", .known .isTrue, .nothing⟩, .blank "2"], []⟩]⟩,
        ⟨"c", .any, [⟨"3", "new", .known .isTrue, .nothing⟩], []⟩], .all⟩ :=
    ⟨fun _ => rfl, by simp [Group.subgroupsOf, Group.subgroups]⟩
  have hne : ([.blank "2"] : List Condition) ≠ [] := List.cons_ne_nil _ []
  exact ⟨hall, ⟨_, _, rfl, rfl, (hquery _ hall "ada" ["name"]).2 _ _ rfl rfl⟩, hne,
    (hrows [.blank "2"]).1 hne⟩

end SavedFilter
end RecordFilter
