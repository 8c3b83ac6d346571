import RecordFilter.Proofs.Query.Row

/-!
# What the journal says of a compiled filter

Compiling a filter leaves notes: of rows that look as if they meant something and are left out all
the same, and of what each group came to.  Here the journal is read off the tree of the filter and
the queries that its rows and groups compile to, without looking at the notes on the way.  It goes
through the tree with the rows of a group first, its groups next and the group itself last.  The
three kinds of notes are written out, with all that they name.

* `Argument.remarks` — what is said of the key of a relative period.
* `Condition.remarks` — what is said of a row that compiles to a query: nothing, unless the query
  constrains nothing although the row has a field and an operator.
* `Condition.journal`, `Group.journal`, `Filter.journal` — the journal.
* `Condition.notes_query`, `Group.notes_query` — rows and groups leave the notes of the journal.
* `Filter.notes_query_eq_journal` — and so does a filter.
-/

set_option autoImplicit false

namespace RecordFilter

/-! ## The journal of a tree -/

/-- What is said of the key of a relative period: a note if it names no period.  Keys are read by
one verb only. -/
def Argument.remarks (argument : Argument) : Verb → List Note
  | .dateIsRelative =>
    match argument.key? with
    | some key =>
      if (Period.ofKey? key).isNone then
        [⟨.debug, "Unknown relative period '" ++ Text.trim key ++ "'"⟩]
      else []
    | none => []
  | _ => []

namespace Condition

/-- What is said of a row with a field and an operator that is left out: one note with its id, its
field and its operator, after what is said of its key. -/
def dropRemarks (c : Condition) : List Note :=
  match c.operator with
  | .unknown key =>
    [⟨.debug, "Skipping condition '" ++ c.id ++ "' on '" ++ Text.trim c.field ++
      "': unknown operator '" ++ key ++ "'"⟩]
  | .known verb =>
    c.argument.remarks verb ++
      [⟨.debug, "Skipping condition '" ++ c.id ++ "' on '" ++ Text.trim c.field ++
        "': no usable value for '" ++ verb.key ++ "'"⟩]

/-- What is said of a row that compiles to this query. -/
def remarks (c : Condition) (made : Query) : List Note :=
  if c.isBlank || c.operator.isBlank || !made.isEverything then [] else c.dropRemarks

/-- The journal of a row. -/
def journal (settings : Settings) (base : String) (c : Condition) :
    Except OffCalendar (List Note) :=
  (c.query settings base).map fun made => c.remarks made.value

/-- The journal of these rows, one after the other. -/
def journals (settings : Settings) (base : String) :
    List Condition → Except OffCalendar (List Note)
  | [] => .ok []
  | c :: rest => do
    let first ← c.journal settings base
    let others ← journals settings base rest
    return first ++ others

end Condition

namespace Group

mutual

/-- The journal of a group: that of its rows, that of its groups, and a note of the query that the
group itself compiles to. -/
def journal (settings : Settings) (base : String) : Group → Except OffCalendar (List Note)
  | ⟨id, connective, conditions, groups⟩ => do
    let own ← Condition.journals settings base conditions
    let nested ← journals settings base groups
    let made ← query settings base ⟨id, connective, conditions, groups⟩
    return own ++ nested ++
      [⟨.trace, "Compiled group '" ++ id ++ "' to " ++ made.value.text⟩]

/-- The journal of these groups, one after the other. -/
def journals (settings : Settings) (base : String) :
    List Group → Except OffCalendar (List Note)
  | [] => .ok []
  | g :: rest => do
    let first ← journal settings base g
    let others ← journals settings base rest
    return first ++ others

end

end Group

/-- The journal of a filter: that of its groups. -/
def Filter.journal (settings : Settings) (f : Filter) : Except OffCalendar (List Note) :=
  Group.journals settings settings.options.fieldBase f.groups

/-! ## The notes of verbs -/

theorem Query.notes_of_orFault {query : Except OffCalendar (Option Query)}
    {found : Noted (Option Query)} (h : orFault query = .ok found) : found.notes = [] := by
  obtain ⟨q, -, rfl⟩ := OffCalendar.map_eq_ok_iff.1 h
  rfl

theorem Query.notes_of_quietly {query : Option Query} {found : Noted (Option Query)}
    (h : quietly query = .ok found) : found.notes = [] := by
  obtain rfl := Except.ok.inj h
  rfl

/-- A key that names no period is noted, and leads to no query. -/
theorem Query.notes_of_ofPeriodKey? {path : String} {settings : Settings} {argument : Argument}
    {found : Noted (Option Query)} (h : ofPeriodKey? path settings argument.key? = .ok found) :
    found.notes = argument.remarks .dateIsRelative ∧
      ∀ q, found.value = some q → found.notes = [] := by
  rw [Argument.remarks]
  cases hkey : argument.key? with
  | none =>
    rw [hkey] at h
    obtain rfl := Except.ok.inj h
    exact ⟨rfl, fun _ hq => absurd hq (Option.some_ne_none _).symm⟩
  | some key =>
    rw [hkey, ofPeriodKey?] at h
    obtain ⟨noted, hnoted, rfl⟩ := OffCalendar.map_eq_ok_iff.1 h
    rw [Period.windowOfKey?] at hnoted
    dsimp only
    cases hperiod : Period.ofKey? key with
    | none =>
      rw [hperiod] at hnoted
      obtain rfl := Except.ok.inj hnoted
      exact ⟨rfl, fun _ hq => absurd hq (Option.some_ne_none _).symm⟩
    | some period =>
      rw [hperiod] at hnoted
      obtain ⟨window?, -, rfl⟩ := OffCalendar.map_eq_ok_iff.1 hnoted
      exact ⟨rfl, fun _ _ => rfl⟩

/-- **A verb notes keys that name no period and nothing else**, and makes no query of them. -/
theorem Verb.notes_query? {verb : Verb} {settings : Settings} {field path : String}
    {argument : Argument} {found : Noted (Option Query)}
    (h : verb.query? settings field path argument = .ok found) :
    found.notes = argument.remarks verb ∧ ∀ q, found.value = some q → found.notes = [] := by
  have silent : found.notes = [] →
      found.notes = [] ∧ ∀ q, found.value = some q → found.notes = [] :=
    fun hnil => ⟨hnil, fun _ _ => hnil⟩
  cases verb with
  | dateIsRelative => exact Query.notes_of_ofPeriodKey? h
  | dateIs | dateIsNot | dateBefore | dateAfter | dateBetween | dateThisWeek | dateThisMonth
  | dateThisYear => exact silent (Query.notes_of_orFault h)
  | _ => exact silent (Query.notes_of_quietly h)

/-! ## The notes of rows, groups and filters -/

section

variable {settings : Settings} {base : String}

/-- The text about a row that is left out, with the reason in its words. -/
theorem Condition.skippedText_eq (c : Condition) {why words : String}
    (h : words = "': " ++ why ++ " '") :
    c.skippedText why = "Skipping condition '" ++ c.id ++ "' on '" ++ Text.trim c.field ++ words ++
      c.operator.key ++ "'" := by
  have hwords : ∀ front key : String,
      front ++ "': " ++ why ++ " '" ++ key ++ "'" = front ++ words ++ key ++ "'" := by
    intro front key
    simp only [h, String.append_assoc]
  exact hwords _ _

theorem Condition.dropRemarks_unknown {c : Condition} {key : String}
    (h : c.operator = .unknown key) :
    c.dropRemarks = [⟨.debug, c.skippedText "unknown operator"⟩] := by
  have hwords : "': unknown operator '" = "': " ++ "unknown operator" ++ " '" := by decide
  have htext := c.skippedText_eq hwords
  rw [h] at htext
  rw [dropRemarks, h, htext]
  rfl

theorem Condition.dropRemarks_known {c : Condition} {verb : Verb} (h : c.operator = .known verb) :
    c.dropRemarks =
      c.argument.remarks verb ++ [⟨.debug, c.skippedText "no usable value for"⟩] := by
  have hwords : "': no usable value for '" = "': " ++ "no usable value for" ++ " '" := by decide
  have htext := c.skippedText_eq hwords
  rw [h] at htext
  rw [dropRemarks, h, htext]
  rfl

/-- **A row leaves the notes that its query calls for.** -/
theorem Condition.notes_of_query {c : Condition} {made : Noted Query}
    (h : c.query settings base = .ok made) : made.notes = c.remarks made.value := by
  rw [query] at h
  rw [remarks]
  by_cases hblank : (c.isBlank || c.operator.isBlank) = true
  · rw [if_pos hblank] at h
    obtain rfl := Except.ok.inj h
    rw [hblank, Bool.true_or, if_pos rfl]
  · rw [if_neg hblank] at h
    rw [Bool.eq_false_iff.2 hblank, Bool.false_or]
    cases hop : c.operator with
    | unknown key =>
      rw [hop] at h
      obtain rfl := Except.ok.inj h
      exact (dropRemarks_unknown hop).symm
    | known verb =>
      rw [hop] at h
      obtain ⟨found, hfound, rfl⟩ := OffCalendar.map_eq_ok_iff.1 h
      obtain ⟨hnotes, hvalue⟩ := Verb.notes_query? hfound
      cases hq : found.value with
      | none =>
        show found.notes ++ _ = c.dropRemarks
        rw [dropRemarks_known hop, hnotes]
      | some q =>
        have hne : q.isEverything = false := by
          have hmade := Verb.query?_ne_everything hfound
          cases q with
          | everything => exact absurd hq hmade
          | all parts | any parts | field path test => rfl
        show found.notes = if (!q.isEverything) = true then [] else _
        rw [hvalue q hq, hne]
        rfl

theorem Condition.notes_query (c : Condition) :
    (c.query settings base).map Noted.notes = c.journal settings base := by
  rw [journal]
  cases hquery : c.query settings base with
  | error fault => rfl
  | ok made => exact congrArg Except.ok (notes_of_query hquery)

theorem Condition.notes_queries (conditions : List Condition) :
    (Condition.queries settings base conditions).map Noted.notes =
      Condition.journals settings base conditions := by
  induction conditions with
  | nil => rfl
  | cons c rest ih =>
    rw [Condition.queries, Condition.journals, ← ih, ← Condition.notes_query c]
    exact OffCalendar.map_both fun _ _ => rfl

namespace Group

mutual

/-- **A group leaves the notes of its rows, those of its groups and one of its own**, in this order.
-/
theorem notes_query : ∀ g : Group,
    (g.query settings base).map Noted.notes = g.journal settings base
  | ⟨id, connective, conditions, groups⟩ => by
    rw [journal, ← Condition.notes_queries, ← notes_queries groups, query]
    cases Condition.queries settings base conditions with
    | error fault => rfl
    | ok own =>
      cases queries settings base groups with
      | error fault => rfl
      | ok nested => rfl

theorem notes_queries : ∀ groups : List Group,
    (queries settings base groups).map Noted.notes = journals settings base groups
  | [] => rfl
  | g :: rest => by
    rw [queries, journals, ← notes_query g, ← notes_queries rest]
    exact OffCalendar.map_both fun _ _ => rfl

end

end Group

end

/-- **The journal of a filter accounts for each row that is left out and for each group.**  Whenever
the filter compiles it is the journals of its groups one after the other.  That of a group is what
is said of its rows in their order, then the journals of its groups, and then the note of the query
that the group itself compiles to.  A row is spoken of when it has a field and an operator and
compiles to the query that constrains nothing: in one note with its id, its field and its operator,
after one about its key if it asks for a relative period by a key that names none. -/
theorem Filter.notes_query_eq_journal (settings : Settings) (f : Filter) :
    (f.query settings).map Noted.notes = f.journal settings := by
  rw [Filter.query, journal, ← Group.notes_queries]
  cases Group.queries settings settings.options.fieldBase f.groups with
  | error fault => rfl
  | ok parts => rfl

example :
    (Filter.journal .atEpoch ⟨[⟨"outer", .any,
        [⟨"1", "due", .known .dateIsRelative, .relative "someday"⟩,
          ⟨"2", " ", .known .contains, .single (.text "a")⟩,
          ⟨"3", "done", .known .isTrue, .nothing⟩],
        [⟨"inner", .all, [⟨"4", " name", .unknown "sounds_like", .nothing⟩], []⟩]⟩], .all⟩).toOption.map
      (List.map Note.line) =
    some ["DEBUG Unknown relative period 'someday'",
      "DEBUG Skipping condition '1' on 'due': no usable value for 'date_is_relative'",
      "DEBUG Skipping condition '4' on 'name': unknown operator 'sounds_like'",
      "TRACE Compiled group 'inner' to \x7b\x7d",
      "TRACE Compiled group 'outer' to \x7b\"done\":\x7b\"$eq\":true\x7d\x7d"] := by
  decide +kernel

end RecordFilter
