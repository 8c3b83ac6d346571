import RecordFilter.Proofs.Fault
import RecordFilter.Proofs.Query.Join
import RecordFilter.Query.OfFilter

/-!
# Reading a filter

A filter can be read off its tree for one record, without building the query of anything but a
single row: a row says what its own query says of the record, or nothing if that query constrains
nothing; a group says what its rows and its groups say together; and a filter that says nothing lets
the record through.

* `Condition.reading`, `Group.reading`, `Filter.reading` — this reading.
* `Group.answer?_query` — the query of a group says of a record what the group reads as.
* `Filter.accepts_query` — the query of a filter accepts exactly the records that its tree lets
  through, and a group that constrains nothing is ignored wherever it stands, below *any* as well as
  below *all*.
-/

set_option autoImplicit false

namespace RecordFilter

/-! ## The reading of a tree -/

/-- What a row says of a record: nothing, if its query constrains nothing. -/
def Condition.reading (settings : Settings) (base : String) (record : Json) (c : Condition) :
    Except OffCalendar (Option Bool) :=
  (c.query settings base).map fun found => found.value.answer? record

/-- What each of these rows says. -/
def Condition.readings (settings : Settings) (base : String) (record : Json) :
    List Condition → Except OffCalendar (List (Option Bool))
  | [] => .ok []
  | c :: rest => do
    let first ← c.reading settings base record
    let others ← Condition.readings settings base record rest
    return first :: others

namespace Group

mutual

/-- What a group says of a record: what its rows and its groups say together. -/
def reading (settings : Settings) (base : String) (record : Json) :
    Group → Except OffCalendar (Option Bool)
  | ⟨_, connective, conditions, groups⟩ => do
    let own ← Condition.readings settings base record conditions
    let nested ← readings settings base record groups
    return connective.answer? (own ++ nested)

/-- What each of these groups says. -/
def readings (settings : Settings) (base : String) (record : Json) :
    List Group → Except OffCalendar (List (Option Bool))
  | [] => .ok []
  | g :: rest => do
    let first ← reading settings base record g
    let others ← readings settings base record rest
    return first :: others

end

end Group

/-- Whether the tree of a filter lets a record through: a filter that says nothing does. -/
def Filter.reading (settings : Settings) (record : Json) (f : Filter) : Except OffCalendar Bool :=
  (Group.readings settings settings.options.fieldBase record f.groups).map fun parts =>
    (f.connective.answer? parts).getD true

/-! ## Queries say what trees read as -/

section

variable (settings : Settings) (base : String) (record : Json)

theorem Condition.answers_queries (conditions : List Condition) :
    (Condition.queries settings base conditions).map
        (fun found => found.value.map (Query.answer? record)) =
      Condition.readings settings base record conditions := by
  induction conditions with
  | nil => rfl
  | cons c rest ih =>
    rw [Condition.queries, Condition.readings, ← ih]
    exact OffCalendar.map_both fun (first : Noted Query) (others : Noted (List Query)) => rfl

namespace Group

mutual

/-- **The query of a group says of a record what the group reads as.** -/
theorem answer?_query : ∀ g : Group,
    (g.query settings base).map (fun found => found.value.answer? record) =
      g.reading settings base record
  | ⟨_, connective, conditions, groups⟩ => by
    rw [query, reading, ← Condition.answers_queries, ← answers_queries groups]
    refine OffCalendar.map_both fun own nested => ?_
    rw [Query.answer?_join, List.map_append]

/-- The queries of groups say of a record what each of the groups reads as. -/
theorem answers_queries : ∀ groups : List Group,
    (queries settings base groups).map (fun found => found.value.map (Query.answer? record)) =
      readings settings base record groups
  | [] => rfl
  | g :: rest => by
    rw [queries, readings, ← answer?_query g, ← answers_queries rest]
    exact OffCalendar.map_both fun _ _ => rfl

end

/-! ## Groups that say nothing -/

theorem readings_append (before after : List Group) :
    readings settings base record (before ++ after) =
      (do
        let first ← readings settings base record before
        let others ← readings settings base record after
        return first ++ others) := by
  induction before with
  | nil =>
    rw [List.nil_append, readings]
    cases readings settings base record after with
    | error fault => rfl
    | ok others => rfl
  | cons g rest ih =>
    rw [List.cons_append, readings, readings, ih]
    cases reading settings base record g with
    | error fault => rfl
    | ok said =>
      cases readings settings base record rest with
      | error fault => rfl
      | ok first =>
        cases readings settings base record after with
        | error fault => rfl
        | ok others => rfl

variable {settings base record}

/-- A group says nothing of a record exactly when its query constrains nothing. -/
theorem reading_eq_none_iff {g : Group} :
    g.reading settings base record = .ok none ↔ g.ConstrainsNothing settings base := by
  rw [← answer?_query, ConstrainsNothing]
  cases g.query settings base with
  | error fault => exact iff_of_false nofun nofun
  | ok found =>
    show (Except.ok (found.value.answer? record) : Except OffCalendar _) = .ok none ↔
      (Except.ok found.value : Except OffCalendar _) = .ok .everything
    rw [Except.ok.injEq, Except.ok.injEq, Query.answer?_eq_none_iff]

/-- A group that says nothing changes nothing that its neighbours say together with other parts. -/
theorem answer?_readings_ignores {g : Group} (h : g.reading settings base record = .ok none)
    (connective : Connective) (own : List (Option Bool)) (before after : List Group) :
    (readings settings base record (before ++ g :: after)).map
        (fun nested => connective.answer? (own ++ nested)) =
      (readings settings base record (before ++ after)).map
        (fun nested => connective.answer? (own ++ nested)) := by
  rw [readings_append, readings_append, readings, h]
  cases readings settings base record before with
  | error fault => rfl
  | ok first =>
    cases readings settings base record after with
    | error fault => rfl
    | ok others =>
      show Except.ok (connective.answer? (own ++ (first ++ none :: others))) =
        Except.ok (connective.answer? (own ++ (first ++ others)))
      rw [← List.append_assoc, ← List.append_assoc, Connective.answer?_append_none_cons]

/-- A group that constrains nothing is ignored by the group it stands in. -/
theorem reading_ignores {g : Group} (h : g.ConstrainsNothing settings base) (id : String)
    (connective : Connective) (conditions : List Condition) (before after : List Group) :
    reading settings base record ⟨id, connective, conditions, before ++ g :: after⟩ =
      reading settings base record ⟨id, connective, conditions, before ++ after⟩ := by
  rw [reading, reading]
  cases Condition.readings settings base record conditions with
  | error fault => rfl
  | ok own => exact answer?_readings_ignores (reading_eq_none_iff.2 h) connective own before after

end Group
end

namespace Filter

variable {settings : Settings} {record : Json}

theorem reading_eq_map_answer? (f : Filter) :
    f.reading settings record =
      ((Group.readings settings settings.options.fieldBase record f.groups).map
        f.connective.answer?).map fun said => said.getD true := by
  rw [reading]
  cases Group.readings settings settings.options.fieldBase record f.groups <;> rfl

/-- A group that constrains nothing is ignored by the filter it stands in. -/
theorem reading_ignores {g : Group} (h : g.ConstrainsNothing settings settings.options.fieldBase)
    (connective : Connective) (before after : List Group) :
    reading settings record ⟨before ++ g :: after, connective⟩ =
      reading settings record ⟨before ++ after, connective⟩ := by
  rw [reading_eq_map_answer?, reading_eq_map_answer?]
  exact congrArg (Except.map fun said => said.getD true)
    (Group.answer?_readings_ignores (Group.reading_eq_none_iff.2 h) connective [] before after)

/-- **The query of a filter accepts exactly the records that its tree lets through**, with a fault
exactly where reading the tree has one; and a group that constrains nothing is ignored by the group
or the filter it stands in, whatever the connective. -/
theorem accepts_query (settings : Settings) (record : Json) :
    (∀ f : Filter, (f.query settings).map (fun found => found.value.accepts record) =
      f.reading settings record) ∧
    (∀ (base : String) (g : Group), g.ConstrainsNothing settings base →
      ∀ (id : String) (connective : Connective) (conditions : List Condition)
        (before after : List Group),
        Group.reading settings base record ⟨id, connective, conditions, before ++ g :: after⟩ =
          Group.reading settings base record ⟨id, connective, conditions, before ++ after⟩) ∧
    (∀ g : Group, g.ConstrainsNothing settings settings.options.fieldBase →
      ∀ (connective : Connective) (before after : List Group),
        Filter.reading settings record ⟨before ++ g :: after, connective⟩ =
          Filter.reading settings record ⟨before ++ after, connective⟩) := by
  refine ⟨fun f => ?_, fun base g h => Group.reading_ignores h, fun g h => reading_ignores h⟩
  rw [Filter.query, reading, ← Group.answers_queries]
  cases Group.queries settings settings.options.fieldBase f.groups with
  | error fault => rfl
  | ok parts =>
    show Except.ok ((Query.join f.connective parts.value).accepts record) =
      Except.ok ((f.connective.answer? (parts.value.map (Query.answer? record))).getD true)
    rw [Query.accepts_eq_getD, Query.answer?_join]

/-- A blank group does not make its neighbour true: *any* of a row that fails and of the blank group
fails. -/
theorem accepts_query_blank_group :
    Group.ConstrainsNothing .atEpoch "" ⟨"blank", .all, [.blank "row"], []⟩ ∧
    Group.reading .atEpoch "" (.object [("done", .bool false)])
        ⟨"outer", .any, [⟨"row", "done", .known .isTrue, .nothing⟩],
          [⟨"blank", .all, [.blank "row"], []⟩]⟩ = .ok (some false) ∧
    Filter.reading .atEpoch (.object [("done", .bool false)])
        ⟨[⟨"blank", .all, [.blank "row"], []⟩,
          ⟨"outer", .any, [⟨"row", "done", .known .isTrue, .nothing⟩], []⟩], .any⟩ = .ok false := by
  have hblank : Group.ConstrainsNothing .atEpoch "" ⟨"blank", .all, [.blank "row"], []⟩ := rfl
  obtain ⟨-, hgroup, hfilter⟩ := accepts_query .atEpoch (.object [("done", .bool false)])
  exact ⟨hblank, (hgroup "" _ hblank "outer" .any _ [] []).trans rfl,
    (hfilter _ hblank .any [] _).trans rfl⟩

end Filter
end RecordFilter
