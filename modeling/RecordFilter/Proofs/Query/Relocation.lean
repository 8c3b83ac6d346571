import Mathlib.Data.List.DropRight
import RecordFilter.Proofs.Query.Row

/-!
# Filters below a base path

A host may keep its records inside of others, and give the path that leads to them.  The path is put
in front of every field.  This file says that nothing else changes: compiled below a base, a filter
asks of the outer record what it would ask of the inner one.

* `Path.IsBase` — a path that can be put in front of others as it is.
* `Json.nestedAt` — a record inside of others, at the end of a path.
* `Query.relocated` — a query with a path put in front of all fields.
  `Query.accepts_relocated` — it accepts a nested record when the query accepts the record.
* `Verb.query?_relocated`, `Condition.query_relocated` — the base has no part in what a row finds,
  or in whether it finds anything.
* `Filter.accepts_nestedAt` — the same for rows and filters.
-/

set_option autoImplicit false

namespace RecordFilter

/-! ## Paths below a base -/

namespace Path

/-- A path inside of what another one leads to. -/
def below (base path : String) : String := String.ofList (base.toList ++ '.' :: path.toList)

theorem splitAtDots_ne_nil (text : List Char) : splitAtDots text ≠ [] := by
  cases text with
  | nil => exact List.cons_ne_nil _ _
  | cons c rest =>
    rw [splitAtDots]
    by_cases hdot : c = '.'
    · rw [if_pos hdot]
      exact List.cons_ne_nil _ _
    · rw [if_neg hdot]
      cases splitAtDots rest with
      | nil => exact List.cons_ne_nil _ _
      | cons part parts => exact List.cons_ne_nil _ _

/-- A dot between two texts separates their parts, whatever dots they have themselves. -/
theorem splitAtDots_append (before after : List Char) :
    splitAtDots (before ++ '.' :: after) = splitAtDots before ++ splitAtDots after := by
  induction before with
  | nil => simp [splitAtDots]
  | cons c rest ih =>
    rw [List.cons_append, splitAtDots, splitAtDots, ih]
    by_cases hdot : c = '.'
    · rw [if_pos hdot, if_pos hdot, List.cons_append]
    · rw [if_neg hdot, if_neg hdot]
      cases hrest : splitAtDots rest with
      | nil => exact absurd hrest (splitAtDots_ne_nil rest)
      | cons part parts => rfl

theorem segments_below (base path : String) :
    segments (below base path) = segments base ++ segments path := by
  rw [segments, below, String.toList_ofList, splitAtDots_append, List.map_append]
  rfl

/-- Whether a path can be put in front of others as it is: it is not blank, has no white space
around it, and does not end in a dot. -/
structure IsBase (base : String) : Prop where
  isBlank_eq : Text.isBlank base = false
  trim_eq : Text.trim base = base
  getLast?_ne : base.toList.getLast? ≠ some '.'

theorem withoutFinalDots_eq (text : List Char) :
    withoutFinalDots text = text.rdropWhile fun c => c = '.' :=
  rfl

theorem IsBase.withoutFinalDots_trimChars {base : String} (h : IsBase base) :
    withoutFinalDots (Text.trimChars base.toList) = base.toList := by
  have htrim : Text.trimChars base.toList = base.toList := by
    have htext := congrArg String.toList h.trim_eq
    rwa [Text.trim, String.toList_ofList] at htext
  rw [htrim, withoutFinalDots_eq, List.rdropWhile_eq_self_iff]
  intro hne hdot
  refine h.getLast?_ne ?_
  rw [List.getLast?_eq_some_getLast hne, of_decide_eq_true hdot]

theorem IsBase.isEmpty_eq {base : String} (h : IsBase base) : base.toList.isEmpty = false := by
  cases hchars : base.toList with
  | nil =>
    have hblank := h.isBlank_eq
    rw [Text.isBlank, hchars] at hblank
    exact nomatch hblank
  | cons c rest => rfl

theorem under_empty (field : String) : under "" field = Text.trim field := rfl

/-- **Below a base, the path of a field is the path it has without one, with the base in front.** -/
theorem IsBase.under_eq {base : String} (h : IsBase base) (field : String) :
    under base field = below base (under "" field) := by
  rw [under_empty, below, Text.trim, String.toList_ofList, under]
  simp only [h.withoutFinalDots_trimChars, h.isEmpty_eq, Bool.false_eq_true, if_false]

end Path

/-! ## Nested records -/

namespace Json

/-- A value inside of objects with one member each, with these names from the outside in. -/
def nested : List String → Json → Json
  | [], j => j
  | name :: rest, j => .object [(name, nested rest j)]

/-- A record inside of others, so that a path leads to it. -/
def nestedAt (base : String) (record : Json) : Json := nested (Path.segments base) record

theorem follow?_nested (names rest : List String) (j : Json) :
    follow? (names ++ rest) (nested names j) = follow? rest j := by
  induction names with
  | nil => rfl
  | cons name names ih =>
    rw [List.cons_append, follow?, nested, member?, List.lookup_cons_self, Option.bind_some, ih]

/-- What a path leads to in a record is what the path below the base leads to around it. -/
theorem at?_nestedAt (record : Json) (base path : String) :
    (record.nestedAt base).at? (Path.below base path) = record.at? path := by
  rw [at?, at?, nestedAt, Path.segments_below, follow?_nested]

end Json

/-! ## Relocated queries -/

namespace Query

mutual

/-- A query with a path put in front of the paths of all fields. -/
def relocated (base : String) : Query → Query
  | .everything => .everything
  | .all parts => .all (allRelocated base parts)
  | .any parts => .any (allRelocated base parts)
  | .field path test => .field (Path.below base path) test

/-- Queries with a path put in front of the paths of all fields. -/
def allRelocated (base : String) : List Query → List Query
  | [] => []
  | q :: rest => relocated base q :: allRelocated base rest

end

theorem allRelocated_eq_map (base : String) (parts : List Query) :
    allRelocated base parts = parts.map (relocated base) := by
  induction parts with
  | nil => rfl
  | cons q rest ih => rw [allRelocated, ih, List.map_cons]

mutual

/-- **A relocated query asks of the nested record what the query asks of the record.** -/
theorem accepts_relocated (base : String) (record : Json) : ∀ q : Query,
    (q.relocated base).accepts (record.nestedAt base) = q.accepts record
  | .everything => rfl
  | .all parts => allAccept_relocated base record parts
  | .any parts => anyAccepts_relocated base record parts
  | .field path test => congrArg test.holds (record.at?_nestedAt base path)

theorem allAccept_relocated (base : String) (record : Json) : ∀ parts : List Query,
    allAccept (record.nestedAt base) (allRelocated base parts) = allAccept record parts
  | [] => rfl
  | q :: rest => by
    rw [allRelocated, allAccept, allAccept, accepts_relocated base record q,
      allAccept_relocated base record rest]

theorem anyAccepts_relocated (base : String) (record : Json) : ∀ parts : List Query,
    anyAccepts (record.nestedAt base) (allRelocated base parts) = anyAccepts record parts
  | [] => rfl
  | q :: rest => by
    rw [allRelocated, anyAccepts, anyAccepts, accepts_relocated base record q,
      anyAccepts_relocated base record rest]

end

theorem isEverything_relocated (base : String) (q : Query) :
    (q.relocated base).isEverything = q.isEverything := by
  cases q <;> rfl

theorem constraining_relocated (base : String) (parts : List Query) :
    constraining (parts.map (relocated base)) = (constraining parts).map (relocated base) := by
  have hkept : (fun q => !q.isEverything) ∘ relocated base = fun q => !q.isEverything := by
    funext q
    exact congrArg not (isEverything_relocated base q)
  rw [constraining, List.filter_map, hkept, constraining]

theorem combine_relocated (base : String) (connective : Connective) (parts : List Query) :
    combine connective (parts.map (relocated base)) =
      (combine connective parts).relocated base := by
  cases connective with
  | all => rw [combine, combine, relocated, allRelocated_eq_map]
  | any => rw [combine, combine, relocated, allRelocated_eq_map]

/-- **A join of relocated queries is the relocated join**: the same parts are left out. -/
theorem join_relocated (base : String) (connective : Connective) (parts : List Query) :
    join connective (parts.map (relocated base)) = (join connective parts).relocated base := by
  rw [join_eq, join_eq, constraining_relocated]
  cases constraining parts with
  | nil => rfl
  | cons q rest =>
    cases rest with
    | nil => rfl
    | cons next rest => exact combine_relocated base connective (q :: next :: rest)

end Query

/-! ## Rows -/

theorem FieldTests.at_below (base path : String) (tests : FieldTests) :
    tests.at (Path.below base path) = (tests.at path).relocated base := by
  cases tests with
  | one test => rfl
  | several connective tests =>
    have hparts : tests.map (Query.field (Path.below base path)) =
        (tests.map (Query.field path)).map (Query.relocated base) := by
      rw [List.map_map]
      rfl
    rw [FieldTests.at, hparts, Query.combine_relocated]
    rfl

/-- A verb at a path below a base finds what it finds at the path. -/
theorem Verb.query?_below (settings : Settings) (field base path : String) (argument : Argument)
    (verb : Verb) :
    verb.query? settings field (Path.below base path) argument =
      (verb.query? settings field path argument).map
        fun found => found.map (Option.map (Query.relocated base)) := by
  obtain ⟨found, hfound⟩ := verb.findsTests settings field argument
  have hat : ∀ path, verb.query? settings field path argument =
      found.map fun noted => noted.map fun tests? => tests?.map (FieldTests.at path) := hfound
  rw [hat, hat, OffCalendar.map_map]
  congr 1
  funext noted
  cases htests : noted.value with
  | none => simp [Noted.map, htests]
  | some tests => simp [Noted.map, htests, FieldTests.at_below]

/-- The same settings, with all fields below this base. -/
def Settings.withBase (settings : Settings) (base : String) : Settings :=
  { settings with options := { settings.options with fieldBase := base } }

namespace Condition

variable {settings : Settings} {base : String}

/-- **A row below a base is the same row, relocated.**  It is dropped, or has a fault, where it is
dropped or has a fault without the base, and it leaves the same notes. -/
theorem query_below (hbase : Path.IsBase base) (c : Condition) :
    c.query (settings.withBase base) base =
      (c.query (settings.withBase "") "").map fun found => found.map (Query.relocated base) := by
  rw [query, query]
  by_cases hblank : (c.isBlank || c.operator.isBlank) = true
  · rw [if_pos hblank, if_pos hblank]
    rfl
  · rw [if_neg hblank, if_neg hblank]
    cases c.operator with
    | unknown key => rfl
    | known verb =>
      -- what a verb finds depends on the moment, the week and the catalog, but not on the base
      have hbelow := verb.query?_below (settings.withBase "") (Text.trim c.field) base
        (Path.under "" (Text.trim c.field)) c.argument
      have hsame : ∀ path,
          verb.query? (settings.withBase base) (Text.trim c.field) path c.argument =
            verb.query? (settings.withBase "") (Text.trim c.field) path c.argument := by
        intro path
        cases verb <;> rfl
      dsimp only
      rw [hbase.under_eq, hsame, hbelow, OffCalendar.map_map, OffCalendar.map_map]
      congr 1
      funext found
      cases hvalue : found.value with
      | none => simp [Noted.map, hvalue, Query.relocated]
      | some q => simp [Noted.map, hvalue]

theorem value_query_below (hbase : Path.IsBase base) (c : Condition) :
    (c.query (settings.withBase base) base).map Noted.value =
      (c.query (settings.withBase "") "").map fun found => found.value.relocated base := by
  rw [query_below hbase, OffCalendar.map_map]
  rfl

theorem value_queries_below (hbase : Path.IsBase base) (conditions : List Condition) :
    (queries (settings.withBase base) base conditions).map Noted.value =
      (queries (settings.withBase "") "" conditions).map
        fun found => found.value.map (Query.relocated base) := by
  induction conditions with
  | nil => rfl
  | cons c rest ih =>
    rw [queries, queries]
    refine OffCalendar.map_both_congr (value_query_below hbase c) ih ?_
    intro first others first' others' hfirst hothers
    exact congrArg₂ List.cons hfirst hothers

end Condition

/-! ## Groups and filters -/

namespace Group

variable {settings : Settings} {base : String}

mutual

/-- **A group below a base is the same group, relocated**, at every depth. -/
theorem value_query_below (hbase : Path.IsBase base) : ∀ g : Group,
    (g.query (settings.withBase base) base).map Noted.value =
      (g.query (settings.withBase "") "").map fun found => found.value.relocated base
  | ⟨id, connective, conditions, groups⟩ => by
    rw [query, query]
    refine OffCalendar.map_both_congr (Condition.value_queries_below hbase conditions)
      (value_queries_below hbase groups) ?_
    intro own nested own' nested' hown hnested
    dsimp only
    rw [hown, hnested, ← List.map_append, Query.join_relocated]

theorem value_queries_below (hbase : Path.IsBase base) : ∀ groups : List Group,
    (queries (settings.withBase base) base groups).map Noted.value =
      (queries (settings.withBase "") "" groups).map
        fun found => found.value.map (Query.relocated base)
  | [] => rfl
  | g :: rest => by
    rw [queries, queries]
    refine OffCalendar.map_both_congr (value_query_below hbase g)
      (value_queries_below hbase rest) ?_
    intro first others first' others' hfirst hothers
    exact congrArg₂ List.cons hfirst hothers

end

end Group

namespace Filter

theorem query_withBase (settings : Settings) (base : String) (f : Filter) :
    f.query (settings.withBase base) =
      (Group.queries (settings.withBase base) base f.groups).map
        (Noted.map (Query.join f.connective)) := by
  rw [query]
  show (Group.queries (settings.withBase base) base f.groups >>= _) = _
  cases Group.queries (settings.withBase base) base f.groups <;> rfl

/-- **A filter below a base is the same filter, relocated.** -/
theorem value_query_below {settings : Settings} {base : String} (hbase : Path.IsBase base)
    (f : Filter) :
    (f.query (settings.withBase base)).map Noted.value =
      (f.query (settings.withBase "")).map fun found => found.value.relocated base := by
  rw [query_withBase, query_withBase]
  calc
    _ = ((Group.queries (settings.withBase base) base f.groups).map Noted.value).map
          (Query.join f.connective) := by
      rw [OffCalendar.map_map, OffCalendar.map_map]
      rfl
    _ = ((Group.queries (settings.withBase "") "" f.groups).map
          fun found => found.value.map (Query.relocated base)).map (Query.join f.connective) := by
      rw [Group.value_queries_below hbase]
    _ = _ := by
      simp only [OffCalendar.map_map, Query.join_relocated, Noted.map]

/-- **A base only relocates a filter.**  Every row finds below the base what it finds without one,
and leaves the same notes; so the same rows are dropped.  A filter compiles below the base exactly
when it compiles without one, to the same query with the base in front of all fields; and of a record
at the end of the base path it says what it says of the record without the base. -/
theorem accepts_nestedAt (settings : Settings) {base : String} (hbase : Path.IsBase base) :
    (∀ c : Condition,
      c.query (settings.withBase base) base =
          ((c.query (settings.withBase "") "").map fun found => found.map (Query.relocated base)) ∧
        (c.ConstrainsNothing (settings.withBase base) base ↔
          c.ConstrainsNothing (settings.withBase "") "")) ∧
    ∀ f : Filter,
      ((∃ found, f.query (settings.withBase base) = .ok found) ↔
        ∃ found, f.query (settings.withBase "") = .ok found) ∧
      ∀ below plain : Noted Query, f.query (settings.withBase base) = .ok below →
        f.query (settings.withBase "") = .ok plain →
        below.value = plain.value.relocated base ∧
          ∀ record : Json,
            below.value.accepts (record.nestedAt base) = plain.value.accepts record := by
  constructor
  · intro c
    refine ⟨Condition.query_below hbase c, ?_⟩
    rw [Condition.ConstrainsNothing, Condition.ConstrainsNothing,
      Condition.value_query_below hbase]
    cases c.query (settings.withBase "") "" with
    | error fault => exact Iff.rfl
    | ok found => cases hvalue : found.value <;> simp [Except.map, hvalue, Query.relocated]
  · intro f
    have hquery := @value_query_below settings base hbase f
    constructor
    · rw [← OffCalendar.exists_map_ok_iff Noted.value, hquery, OffCalendar.exists_map_ok_iff]
    · intro below plain hbelow hplain
      rw [hbelow, hplain] at hquery
      have hvalue : below.value = plain.value.relocated base := Except.ok.inj hquery
      refine ⟨hvalue, fun record => ?_⟩
      rw [hvalue, Query.accepts_relocated]

/-- A filter for customers with a name, used for the customers of orders.  Its other row has an
operator that is not known, and is dropped below the base as well. -/
theorem accepts_nestedAt_customer :
    Path.IsBase "order.customer" ∧
    ∃ below plain : Noted Query,
      query (Settings.atEpoch.withBase "order.customer")
        ⟨[⟨"g", .any, [⟨"a", "name", .known .isNotEmpty, .nothing⟩,
          ⟨"b", "name", .unknown "near", .nothing⟩], []⟩], .all⟩ = .ok below ∧
      query (Settings.atEpoch.withBase "")
        ⟨[⟨"g", .any, [⟨"a", "name", .known .isNotEmpty, .nothing⟩,
          ⟨"b", "name", .unknown "near", .nothing⟩], []⟩], .all⟩ = .ok plain ∧
      below.value.accepts
          (.object [("order", .object [("customer", .object [("name", .string "Ada")])])]) =
        plain.value.accepts (.object [("name", .string "Ada")]) := by
  have hbase : Path.IsBase "order.customer" := ⟨by decide, by decide, by decide⟩
  obtain ⟨-, hfilters⟩ := accepts_nestedAt Settings.atEpoch hbase
  obtain ⟨-, hquery⟩ := hfilters ⟨[⟨"g", .any, [⟨"a", "name", .known .isNotEmpty, .nothing⟩,
    ⟨"b", "name", .unknown "near", .nothing⟩], []⟩], .all⟩
  obtain ⟨-, haccepts⟩ := hquery _ _ rfl rfl
  exact ⟨hbase, _, _, rfl, rfl, haccepts (.object [("name", .string "Ada")])⟩

end Filter
end RecordFilter
