import RecordFilter.Proofs.Query.Row
import RecordFilter.Proofs.Query.Search

/-!
# Compiled queries are in normal form

A query that constrains nothing is the unit of *all*, but below *any* it lets every record through;
and a store rejects a connective over no parts.  Neither comes up in compiled queries.  A join
leaves out the parts that constrain nothing and puts a connective over two parts or more, and what
is not made by a join, the queries of verbs, has two tests or more under a connective.  The search
of a view is the exception: it may be *any* of a single test.

* `Query.subqueries` — a query and the queries in it.
* `Query.IsNormal` — the normal form: nothing at all, or constraints throughout, two or more under
  each connective.
* `Query.IsNormalBefore` — the normal form up to a search in a single field, which comes last.
* `Query.isNormal_join` — joining keeps the normal form.
* `Json.values`, `Json.IsTidy` — the values in a document, and what the normal form means for them.
* `compiled_isNormal` — rows, groups, filters and views compile to queries in normal form, whenever
  they compile.
-/

set_option autoImplicit false

namespace RecordFilter

/-! ## The queries in a query -/

namespace Query

mutual

/-- A query and the queries in it, each one before those in it. -/
def subqueries : Query → List Query
  | .everything => [.everything]
  | .all parts => .all parts :: subqueriesOf parts
  | .any parts => .any parts :: subqueriesOf parts
  | .field path test => [.field path test]

/-- These queries and the queries in them. -/
def subqueriesOf : List Query → List Query
  | [] => []
  | q :: rest => subqueries q ++ subqueriesOf rest

end

/-- Whether a query constrains something, by a test or by two parts or more under a connective. -/
def IsWide : Query → Prop
  | .everything => False
  | .all parts | .any parts => 2 ≤ parts.length
  | .field _ _ => True

/-- Whether a query constrains nothing, or has in it only queries that constrain something, two or
more under each connective. -/
def IsNormal (q : Query) : Prop := q = .everything ∨ ∀ part ∈ q.subqueries, part.IsWide

/-- Whether a query has this one in it as the last one, *any* of a single test, and up to it only
queries that constrain something, two or more under each connective. -/
def IsNormalBefore (q last : Query) : Prop :=
  (∃ path test, last = .any [.field path test]) ∧
    ∃ before, q.subqueries = before ++ last.subqueries ∧ ∀ part ∈ before, part.IsWide

theorem mem_subqueriesOf_iff {part : Query} {parts : List Query} :
    part ∈ subqueriesOf parts ↔ ∃ q ∈ parts, part ∈ q.subqueries := by
  induction parts with
  | nil => simp [subqueriesOf]
  | cons q rest ih => simp [subqueriesOf, ih]

theorem subqueries_combine (connective : Connective) (parts : List Query) :
    (combine connective parts).subqueries = combine connective parts :: subqueriesOf parts := by
  cases connective <;> rfl

theorem isWide_combine_iff {connective : Connective} {parts : List Query} :
    (combine connective parts).IsWide ↔ 2 ≤ parts.length := by
  cases connective <;> rfl

/-! ## The normal form of joins -/

theorem isNormal_everything : everything.IsNormal := Or.inl rfl

theorem isNormal_field (path : String) (test : Test) : (field path test).IsNormal := by
  refine Or.inr fun part hpart => ?_
  obtain rfl := List.mem_singleton.1 hpart
  trivial

theorem IsNormal.isWide {q part : Query} (h : q.IsNormal) (hq : q.isEverything = false)
    (hpart : part ∈ q.subqueries) : part.IsWide := by
  rcases h with rfl | hwide
  · cases hq
  · exact hwide part hpart

/-- Two parts or more that constrain something are in normal form under a connective. -/
theorem isNormal_combine (connective : Connective) {parts : List Query} (hlen : 2 ≤ parts.length)
    (hparts : ∀ q ∈ parts, q.IsNormal ∧ q.isEverything = false) :
    (combine connective parts).IsNormal := by
  refine Or.inr fun part hpart => ?_
  rw [subqueries_combine, List.mem_cons, mem_subqueriesOf_iff] at hpart
  rcases hpart with rfl | ⟨q, hq, hpart⟩
  · exact isWide_combine_iff.2 hlen
  · obtain ⟨hnormal, hne⟩ := hparts q hq
    exact hnormal.isWide hne hpart

/-- **Joining keeps the normal form**, whichever parts it leaves out. -/
theorem isNormal_join (connective : Connective) {parts : List Query}
    (hparts : ∀ q ∈ parts, q.IsNormal) : (join connective parts).IsNormal := by
  have hkept : ∀ q ∈ constraining parts, q.IsNormal ∧ q.isEverything = false := fun q hq =>
    ⟨hparts q (List.mem_of_mem_filter hq), isEverything_of_mem_constraining hq⟩
  rw [join_eq]
  cases hconstraining : constraining parts with
  | nil => exact isNormal_everything
  | cons q rest =>
    rw [hconstraining] at hkept
    cases rest with
    | nil => exact (hkept q List.mem_cons_self).1
    | cons next rest => exact isNormal_combine connective (Nat.le_add_left 2 _) hkept

end Query

/-! ## The normal form of rows, groups and filters -/

theorem FieldTests.isNormal_at {tests : FieldTests} (hwide : tests.IsWide) (path : String) :
    (tests.at path).IsNormal := by
  cases tests with
  | one test => exact Query.isNormal_field path test
  | several connective tests =>
    refine Query.isNormal_combine connective ?_ fun q hq => ?_
    · rwa [List.length_map]
    · obtain ⟨test, -, rfl⟩ := List.mem_map.1 hq
      exact ⟨Query.isNormal_field path test, rfl⟩

variable {settings : Settings} {base : String}

theorem Verb.isNormal_query? {field path : String} {argument : Argument} {verb : Verb}
    {made : Noted (Option Query)} (h : verb.query? settings field path argument = .ok made)
    {q : Query} (hq : made.value = some q) : q.IsNormal := by
  obtain ⟨found, hwide, hfound⟩ := verb.findsWideTests settings field argument
  have hmade := (hfound path).symm.trans h
  obtain ⟨noted, rfl, rfl⟩ := OffCalendar.map_eq_ok_iff.1 hmade
  obtain ⟨tests, htests, rfl⟩ := Option.map_eq_some_iff.1 hq
  exact FieldTests.isNormal_at (hwide noted rfl tests htests) path

namespace Condition

theorem isNormal_query {c : Condition} {found : Noted Query}
    (h : c.query settings base = .ok found) : found.value.IsNormal := by
  rw [query] at h
  split at h
  · obtain rfl := Except.ok.inj h
    exact Query.isNormal_everything
  · cases hop : c.operator with
    | unknown key =>
      rw [hop] at h
      obtain rfl := Except.ok.inj h
      exact Query.isNormal_everything
    | known verb =>
      rw [hop] at h
      obtain ⟨made, hmade, rfl⟩ := OffCalendar.map_eq_ok_iff.1 h
      cases hvalue : made.value with
      | none => exact Query.isNormal_everything
      | some q => exact Verb.isNormal_query? hmade hvalue

theorem isNormal_of_queries {conditions : List Condition} {found : Noted (List Query)}
    (h : queries settings base conditions = .ok found) : ∀ q ∈ found.value, q.IsNormal := by
  induction conditions generalizing found with
  | nil =>
    obtain rfl := Except.ok.inj h
    exact List.forall_mem_nil _
  | cons c rest ih =>
    obtain ⟨first, others, hfirst, hothers, rfl⟩ := OffCalendar.both_eq_ok_iff.1 h
    exact List.forall_mem_cons.2 ⟨isNormal_query hfirst, ih hothers⟩

end Condition

namespace Group

mutual

/-- **The query of a group is in normal form**, and so are the queries of its groups. -/
theorem isNormal_query : ∀ {g : Group} {found : Noted Query},
    g.query settings base = .ok found → found.value.IsNormal
  | ⟨id, connective, conditions, groups⟩, found, h => by
    obtain ⟨own, nested, hown, hnested, rfl⟩ := OffCalendar.both_eq_ok_iff.1 h
    refine Query.isNormal_join connective fun q hq => ?_
    exact (List.mem_append.1 hq).elim (Condition.isNormal_of_queries hown q)
      (isNormal_of_queries hnested q)

theorem isNormal_of_queries : ∀ {groups : List Group} {found : Noted (List Query)},
    queries settings base groups = .ok found → ∀ q ∈ found.value, q.IsNormal
  | [], found, h => by
    obtain rfl := Except.ok.inj h
    exact List.forall_mem_nil _
  | g :: rest, found, h => by
    obtain ⟨first, others, hfirst, hothers, rfl⟩ := OffCalendar.both_eq_ok_iff.1 h
    exact List.forall_mem_cons.2 ⟨isNormal_query hfirst, isNormal_of_queries hothers⟩

end

end Group

theorem Filter.isNormal_query {f : Filter} {found : Noted Query}
    (h : f.query settings = .ok found) : found.value.IsNormal := by
  obtain ⟨parts, hparts, rfl⟩ := OffCalendar.map_eq_ok_iff.1 h
  exact Query.isNormal_join f.connective (Group.isNormal_of_queries hparts)

/-! ## The normal form of views -/

namespace Query

/-- A search is in normal form, unless it is a search in a single field. -/
theorem isNormal_search_or (text : String) (paths : List String) :
    (search text paths).IsNormal ∨ ∃ path test, search text paths = .any [.field path test] := by
  rw [search]
  split
  · exact Or.inl isNormal_everything
  · rename_i hsomething
    cases hnamed : namedFields paths with
    | nil => simp [hnamed] at hsomething
    | cons path rest =>
      cases rest with
      | nil => exact Or.inr ⟨path, _, rfl⟩
      | cons next rest =>
        refine Or.inl (isNormal_combine .any (Nat.le_add_left 2 _) fun q hq => ?_)
        obtain ⟨path, -, rfl⟩ := List.mem_map.1 hq
        exact ⟨isNormal_field path _, rfl⟩

theorem isNormal_narrowed {filter search : Query} (hfilter : filter.IsNormal)
    (hsearch : search.IsNormal) : (filter.narrowed search).IsNormal := by
  refine isNormal_join .all fun q hq => ?_
  rcases List.mem_pair.1 hq with rfl | rfl
  · exact hfilter
  · exact hsearch

/-- A search in a single field comes last in a filter that is narrowed down by it. -/
theorem isNormalBefore_narrowed {filter search : Query} (hfilter : filter.IsNormal)
    (hsearch : ∃ path test, search = .any [.field path test]) :
    (filter.narrowed search).IsNormalBefore search := by
  refine ⟨hsearch, ?_⟩
  have hne : search ≠ .everything := by
    obtain ⟨path, test, rfl⟩ := hsearch
    exact nofun
  by_cases hnothing : filter = .everything
  · rw [hnothing, everything_narrowed]
    exact ⟨[], rfl, List.forall_mem_nil _⟩
  · rw [narrowed_eq_all hnothing hne]
    refine ⟨.all [filter, search] :: filter.subqueries, ?_, ?_⟩
    · simp [subqueries, subqueriesOf]
    · exact List.forall_mem_cons.2 ⟨Nat.le_refl 2, hfilter.resolve_left hnothing⟩

end Query

theorem SavedFilter.isNormal_query {fresh : FreshIds} {saved : SavedFilter} {found : Noted Query}
    (h : saved.query settings fresh = .ok found) : found.value.IsNormal :=
  Filter.isNormal_query h

/-- **The query of a view is in normal form**, up to a search in a single field. -/
theorem SavedFilter.isNormal_queryWithSearch_or {fresh : FreshIds} {saved : SavedFilter}
    {text : String} {fields : List String} {whole : Noted Query}
    (h : saved.queryWithSearch settings fresh text fields = .ok whole) :
    whole.value.IsNormal ∨ whole.value.IsNormalBefore (searchBelow settings text fields) := by
  rw [queryWithSearch_eq] at h
  obtain ⟨filter, hfilter, rfl⟩ := OffCalendar.map_eq_ok_iff.1 h
  have hnormal := isNormal_query hfilter
  exact (Query.isNormal_search_or text _).imp (Query.isNormal_narrowed hnormal)
    (Query.isNormalBefore_narrowed hnormal)

/-! ## The values in a document -/

namespace Json

mutual

/-- A value and the values in it. -/
def values : Json → List Json
  | .array items => .array items :: valuesOfItems items
  | .object members => .object members :: valuesOfMembers members
  | j => [j]

/-- These items and the values in them. -/
def valuesOfItems : List Json → List Json
  | [] => []
  | j :: rest => values j ++ valuesOfItems rest

/-- The values of these members and the values in them. -/
def valuesOfMembers : List (String × Json) → List Json
  | [] => []
  | (_, j) :: rest => values j ++ valuesOfMembers rest

end

/-- Whether the empty document is nothing but the whole document, and no list under a connective is
empty. -/
structure IsTidy (document : Json) : Prop where
  eq_of_empty : .object [] ∈ document.values → document = .object []
  list_ne_nil : ∀ members, .object members ∈ document.values →
    ("$and", .array []) ∉ members ∧ ("$or", .array []) ∉ members

/-- Whether a value is neither the empty document nor one with an empty list under a connective. -/
def IsFilled : Json → Prop
  | .object members =>
    members ≠ [] ∧ ("$and", .array []) ∉ members ∧ ("$or", .array []) ∉ members
  | _ => True

/-- Whether this is so for a value and for the values in it. -/
def IsFilledThroughout (j : Json) : Prop := ∀ value ∈ j.values, value.IsFilled

theorem isTidy_empty : (Json.object []).IsTidy := by
  refine ⟨fun _ => rfl, fun members hmembers => ?_⟩
  obtain rfl := Json.object.inj (List.mem_singleton.1 hmembers)
  exact ⟨List.not_mem_nil, List.not_mem_nil⟩

theorem IsFilledThroughout.isTidy {document : Json} (h : document.IsFilledThroughout) :
    document.IsTidy := by
  refine ⟨fun hempty => ?_, fun members hmembers => ?_⟩
  · obtain ⟨hne, -⟩ := h _ hempty
    exact absurd rfl hne
  · obtain ⟨-, hlists⟩ := h _ hmembers
    exact hlists

theorem mem_valuesOfItems_iff {value : Json} {items : List Json} :
    value ∈ valuesOfItems items ↔ ∃ j ∈ items, value ∈ j.values := by
  induction items with
  | nil => simp [valuesOfItems]
  | cons j rest ih => simp [valuesOfItems, ih]

theorem mem_valuesOfMembers_iff {value : Json} {members : List (String × Json)} :
    value ∈ valuesOfMembers members ↔ ∃ member ∈ members, value ∈ member.2.values := by
  induction members with
  | nil => simp [valuesOfMembers]
  | cons member rest ih => simp [valuesOfMembers, ih]

theorem isFilledThroughout_array {items : List Json} (h : ∀ j ∈ items, j.IsFilledThroughout) :
    (Json.array items).IsFilledThroughout := by
  intro value hvalue
  rw [values, List.mem_cons, mem_valuesOfItems_iff] at hvalue
  rcases hvalue with rfl | ⟨j, hj, hvalue⟩
  · trivial
  · exact h j hj value hvalue

theorem isFilledThroughout_object {members : List (String × Json)}
    (hfilled : (Json.object members).IsFilled)
    (h : ∀ member ∈ members, member.2.IsFilledThroughout) :
    (Json.object members).IsFilledThroughout := by
  intro value hvalue
  rw [values, List.mem_cons, mem_valuesOfMembers_iff] at hvalue
  rcases hvalue with rfl | ⟨member, hmember, hvalue⟩
  · exact hfilled
  · exact h member hmember value hvalue

end Json

/-! ## The documents of queries in normal form -/

theorem FiniteDouble.isFilledThroughout_toJson (x : FiniteDouble) :
    x.toJson.IsFilledThroughout := by
  have hnumber : ∀ n : Json.Number, (Json.number n).IsFilledThroughout := by
    intro n value hvalue
    obtain rfl := List.mem_singleton.1 hvalue
    trivial
  rw [toJson]
  split
  · split
    · exact hnumber _
    · exact hnumber _
  · exact hnumber _

namespace Operand

mutual

/-- No operand is written as the empty document, or with a connective. -/
theorem isFilledThroughout_toJson : ∀ x : Operand, x.toJson.IsFilledThroughout
  | .number (.finite x) => x.isFilledThroughout_toJson
  | .list items => Json.isFilledThroughout_array (isFilledThroughout_toItems items)
  | .null | .bool _ | .number (.infinite _) | .number .notANumber | .text _ => by
    simp [toJson, Json.IsFilledThroughout, Json.values, Json.IsFilled]
  | .date _ => by
    simp [toJson, Json.IsFilledThroughout, Json.values, Json.valuesOfMembers, Json.IsFilled]

theorem isFilledThroughout_toItems : ∀ items : List Operand,
    ∀ j ∈ toItems items, j.IsFilledThroughout
  | [] => List.forall_mem_nil _
  | x :: rest =>
    List.forall_mem_cons.2 ⟨isFilledThroughout_toJson x, isFilledThroughout_toItems rest⟩

end

end Operand

theorem Pattern.isFilledThroughout_toJson (p : Pattern) : p.toJson.IsFilledThroughout := by
  rw [toJson]
  cases p.ignoreCase <;>
    simp [Json.IsFilledThroughout, Json.values, Json.valuesOfMembers, Json.IsFilled]

namespace Test

/-- A test is written as an object with a member or two, none of them a connective. -/
theorem isFilledThroughout_toJson (test : Test) : test.toJson.IsFilledThroughout := by
  have hone : ∀ (name : String) (j : Json), name ≠ "$and" → name ≠ "$or" →
      j.IsFilledThroughout → (Json.object [(name, j)]).IsFilledThroughout := by
    intro name j hand hor hj
    refine Json.isFilledThroughout_object ?_ (by simpa using hj)
    simp [Json.IsFilled, hand.symm, hor.symm]
  have hlist : ∀ items : List Operand,
      (Json.array (Operand.toItems items)).IsFilledThroughout := fun items =>
    Json.isFilledThroughout_array (Operand.isFilledThroughout_toItems items)
  cases test with
  | equals x | differs x | above x | atLeast x | below x | atMost x =>
    exact hone _ _ (by decide) (by decide) x.isFilledThroughout_toJson
  | between lower upper =>
    refine Json.isFilledThroughout_object (by simp [Json.IsFilled]) ?_
    simp [lower.isFilledThroughout_toJson, upper.isFilledThroughout_toJson]
  | fits p => exact p.isFilledThroughout_toJson
  | failsToFit p => exact hone _ _ (by decide) (by decide) p.isFilledThroughout_toJson
  | isPresent expected =>
    exact hone _ _ (by decide) (by decide) (Operand.isFilledThroughout_toJson (.bool expected))
  | oneOf items | noneOf items => exact hone _ _ (by decide) (by decide) (hlist items)

theorem exists_toJson_eq (test : Test) : ∃ members, test.toJson = .object members := by
  cases test <;> exact ⟨_, rfl⟩

end Test

namespace Query

/-- Whether a query constrains something, by a test or by some part under a connective. -/
def IsFilled : Query → Prop
  | .everything => False
  | .all parts | .any parts => parts ≠ []
  | .field _ _ => True

theorem IsWide.isFilled {q : Query} (h : q.IsWide) : q.IsFilled := by
  cases q with
  | everything => exact h
  | all parts | any parts => exact List.ne_nil_of_length_pos (Nat.lt_of_succ_lt h)
  | field path test => trivial

theorem documents_eq_map (parts : List Query) : documents parts = parts.map document := by
  induction parts with
  | nil => rfl
  | cons q rest ih => rw [documents, ih, List.map_cons]

mutual

/-- **A document has no more gaps than its query.** -/
theorem isFilledThroughout_document : ∀ q : Query, (∀ part ∈ q.subqueries, part.IsFilled) →
    q.document.IsFilledThroughout
  | .everything, h => (h _ List.mem_cons_self).elim
  | .all parts, h | .any parts, h => by
    obtain ⟨hfilled, hparts⟩ := List.forall_mem_cons.1 h
    have hne : parts ≠ [] := hfilled
    refine Json.isFilledThroughout_object ?_ ?_
    · have hlist : documents parts ≠ [] := by simpa [documents_eq_map] using hne
      simpa [Json.IsFilled] using hlist.symm
    · exact List.forall_mem_singleton.2
        (Json.isFilledThroughout_array (isFilledThroughout_documents parts hparts))
  | .field path test, _ => by
    refine Json.isFilledThroughout_object ?_ (by simpa using test.isFilledThroughout_toJson)
    obtain ⟨members, hmembers⟩ := test.exists_toJson_eq
    simp [Json.IsFilled, hmembers]

theorem isFilledThroughout_documents : ∀ parts : List Query,
    (∀ part ∈ subqueriesOf parts, part.IsFilled) →
    ∀ j ∈ documents parts, j.IsFilledThroughout
  | [], _ => List.forall_mem_nil _
  | q :: rest, h => by
    obtain ⟨hfirst, hrest⟩ := List.forall_mem_append.1 h
    exact List.forall_mem_cons.2
      ⟨isFilledThroughout_document q hfirst, isFilledThroughout_documents rest hrest⟩

end

theorem IsNormal.isTidy_document {q : Query} (h : q.IsNormal) : q.document.IsTidy := by
  rcases h with rfl | hwide
  · exact Json.isTidy_empty
  · exact (isFilledThroughout_document q fun part hpart => (hwide part hpart).isFilled).isTidy

theorem IsNormalBefore.isTidy_document {q last : Query} (h : q.IsNormalBefore last) :
    q.document.IsTidy := by
  obtain ⟨⟨path, test, rfl⟩, before, hsubqueries, hbefore⟩ := h
  refine (isFilledThroughout_document q ?_).isTidy
  rw [hsubqueries]
  refine List.forall_mem_append.2 ⟨fun part hpart => (hbefore part hpart).isFilled, ?_⟩
  simp [subqueries, subqueriesOf, IsFilled]

end Query

/-! ## All that compiles -/

/-- Whether compiling these rows, however they are arranged, returns unless one of them asks for a
date that the calendar does not have, and whether what it returns is in normal form. -/
structure CompilesNormally (settings : Settings) (rows : List Condition)
    (result : Except OffCalendar (Noted Query)) : Prop where
  returns_iff : (∃ found, result = .ok found) ↔ ∀ c ∈ rows, ¬ c.AsksOffCalendar settings
  isNormal : ∀ found, result = .ok found → found.value.IsNormal ∧ found.value.document.IsTidy

theorem exists_ok_iff_of_eq_error_iff {rows : List Condition} {α : Type}
    {result : Except OffCalendar α}
    (h : result = .error .offCalendar ↔ ∃ c ∈ rows, c.AsksOffCalendar settings) :
    (∃ found, result = .ok found) ↔ ∀ c ∈ rows, ¬ c.AsksOffCalendar settings := by
  rw [OffCalendar.exists_ok_iff, h]
  simp only [not_exists, not_and]

theorem compilesNormally_of_eq_error_iff {rows : List Condition}
    {result : Except OffCalendar (Noted Query)}
    (hfault : result = .error .offCalendar ↔ ∃ c ∈ rows, c.AsksOffCalendar settings)
    (hnormal : ∀ found, result = .ok found → found.value.IsNormal) :
    CompilesNormally settings rows result where
  returns_iff := exists_ok_iff_of_eq_error_iff hfault
  isNormal found hfound := ⟨hnormal found hfound, (hnormal found hfound).isTidy_document⟩

/-- **All that compiles is in normal form.**  The query of a row, of a group, of a filter, and of
what is saved as a filter or a plain list of rows is there unless a row asks for a date that the
calendar does not have.  It either constrains nothing or has in it only queries that constrain
something, with two parts or more under each connective.  The query of a view is of this form too,
except that a search in a single field, which comes last, is *any* of a single test.  So in none of
the documents is there an empty document, but for the whole one, or an empty list under a
connective. -/
theorem compiled_isNormal (settings : Settings) :
    (∀ (base : String) (c : Condition),
      CompilesNormally settings [c] (c.query settings base)) ∧
    (∀ (base : String) (g : Group), CompilesNormally settings g.rows (g.query settings base)) ∧
    (∀ f : Filter, CompilesNormally settings f.rows (f.query settings)) ∧
    ∀ (fresh : FreshIds) (saved : SavedFilter),
      CompilesNormally settings saved.rows (saved.query settings fresh) ∧
      ∀ (text : String) (fields : List String),
        ((∃ whole, saved.queryWithSearch settings fresh text fields = .ok whole) ↔
          ∀ c ∈ saved.rows, ¬ c.AsksOffCalendar settings) ∧
        ∀ whole : Noted Query, saved.queryWithSearch settings fresh text fields = .ok whole →
          (whole.value.IsNormal ∨
            whole.value.IsNormalBefore (SavedFilter.searchBelow settings text fields)) ∧
          whole.value.document.IsTidy := by
  refine ⟨fun base c => ?_, fun base g => ?_, fun f => ?_, fun fresh saved => ⟨?_, ?_⟩⟩
  · refine compilesNormally_of_eq_error_iff ?_ fun found => Condition.isNormal_query
    simpa using Condition.query_eq_error_iff
  · exact compilesNormally_of_eq_error_iff Group.query_eq_error_iff fun found =>
      Group.isNormal_query
  · exact compilesNormally_of_eq_error_iff Filter.query_eq_error_iff fun found =>
      Filter.isNormal_query
  · refine compilesNormally_of_eq_error_iff ?_ fun found => SavedFilter.isNormal_query
    rw [← SavedFilter.exists_asksOffCalendar_iff]
    exact Filter.query_eq_error_iff
  · intro text fields
    refine ⟨exists_ok_iff_of_eq_error_iff SavedFilter.query_eq_error_iff, fun whole hwhole => ?_⟩
    have hnormal := SavedFilter.isNormal_queryWithSearch_or hwhole
    exact ⟨hnormal,
      hnormal.elim Query.IsNormal.isTidy_document Query.IsNormalBefore.isTidy_document⟩

/-- A filter with a row that is *any* of several tests and a group that constrains nothing, beside a
search in a single field. -/
theorem compiled_isNormal_single_field_search :
    ∃ filter whole : Noted Query,
      SavedFilter.query .atEpoch ⟨"group", "row"⟩
        (.advanced ⟨[⟨"g", .any, [⟨"a", "done", .known .isTrue, .nothing⟩,
          ⟨"b", "name", .known .isEmpty, .nothing⟩], [⟨"h", .all, [], []⟩]⟩], .all⟩) = .ok filter ∧
      (filter.value.IsNormal ∧ filter.value.document.IsTidy) ∧
      SavedFilter.queryWithSearch .atEpoch ⟨"group", "row"⟩
        (.advanced ⟨[⟨"g", .any, [⟨"a", "done", .known .isTrue, .nothing⟩,
          ⟨"b", "name", .known .isEmpty, .nothing⟩], [⟨"h", .all, [], []⟩]⟩], .all⟩)
        "ada" ["name"] = .ok whole ∧
      ((whole.value.IsNormal ∨
        whole.value.IsNormalBefore (SavedFilter.searchBelow .atEpoch "ada" ["name"])) ∧
        whole.value.document.IsTidy) ∧ ¬ whole.value.IsNormal := by
  obtain ⟨-, -, -, hsaved⟩ := compiled_isNormal .atEpoch
  obtain ⟨hquery, hwhole⟩ := hsaved ⟨"group", "row"⟩
    (.advanced ⟨[⟨"g", .any, [⟨"a", "done", .known .isTrue, .nothing⟩,
      ⟨"b", "name", .known .isEmpty, .nothing⟩], [⟨"h", .all, [], []⟩]⟩], .all⟩)
  refine ⟨_, _, rfl, hquery.isNormal _ rfl, rfl, (hwhole "ada" ["name"]).2 _ rfl, ?_⟩
  rintro (h | h)
  · cases h
  · exact absurd (h (SavedFilter.searchBelow .atEpoch "ada" ["name"])
      (List.mem_of_getElem? (i := 8) rfl)) (Nat.not_succ_le_self 1)

end RecordFilter
