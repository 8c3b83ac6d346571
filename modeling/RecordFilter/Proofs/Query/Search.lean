import RecordFilter.Proofs.Condition.Canonical
import RecordFilter.Proofs.Query.Pattern
import RecordFilter.Proofs.Query.Relocation
import RecordFilter.Proofs.Query.Values
import RecordFilter.Proofs.Text.Space

/-!
# Search narrows a filter down

The query of a view is made of two parts: the query of its filter, and a search for a text in some
fields.  This file says that the two stay apart.  Whatever connectives the filter has inside, the
whole query accepts what both parts accept, and a part that constrains nothing leaves the other as
it is.

Fields without a name constrain nothing either, as long as they stay without a name.  Below a base
path they do not: the base and a dot are put in front of them, and what comes out is the name of a
field that records do not have.

* `Json.HasText` — a text with some property, or an array with such a text in it.
* `Query.accepts_search_iff` — what a search accepts.
* `Query.narrowed_right_inj` — different searches make different queries of the same filter.
* `SavedFilter.accepts_queryWithSearch` — what the query of a view accepts, and its shape.
* `Path.AddsNothing` — the bases below which fields without a name stay without one.
* `SavedFilter.queryWithSearch_named_iff` — when such fields can be left out.
-/

set_option autoImplicit false

namespace RecordFilter

/-! ## Fields with a name -/

namespace Query

theorem namedFields_eq (fields : List String) :
    namedFields fields = (fields.filter fun field => !Text.isBlank field).map Text.trim := by
  have hnamed : (fun field => !String.isEmpty field) ∘ Text.trim =
      fun field => !Text.isBlank field :=
    funext fun field => congrArg not (Text.isEmpty_trim field)
  rw [namedFields, List.filter_map, hnamed]

theorem namedFields_eq_nil_iff {fields : List String} :
    namedFields fields = [] ↔ ∀ field ∈ fields, Text.isBlank field = true := by
  simp [namedFields_eq, List.filter_eq_nil_iff]

theorem mem_namedFields_iff {fields : List String} {name : String} :
    name ∈ namedFields fields ↔
      ∃ field ∈ fields, Text.isBlank field = false ∧ Text.trim field = name := by
  simp [namedFields_eq, and_assoc]

end Query

/-! ## What a search accepts -/

/-- Whether a value is a text with some property, or an array with such a text among its items. -/
def Json.HasText (p : String → Prop) : Json → Prop
  | .string s => p s
  | .array items => ∃ s, .string s ∈ items ∧ p s
  | _ => False

/-- The value at a path fits a pattern when it is a text that the pattern matches, or an array with
such a text in it. -/
theorem Test.holds_fits_iff {pattern : Pattern} {p : String → Prop}
    (h : ∀ text, pattern.matchesText text = true ↔ p text) {value : Option Json} :
    (Test.fits pattern).holds value = true ↔ ∃ j, value = some j ∧ j.HasText p := by
  have hitem : ∀ j : Json, pattern.fitsValue j = true ↔ ∃ s, j = .string s ∧ p s := by
    intro j
    cases j <;> simp [Pattern.fitsValue, h]
  rw [Test.holds]
  cases value with
  | none => exact iff_of_false nofun fun ⟨_, h, _⟩ => nomatch h
  | some j =>
    cases j with
    | array items =>
      simp only [anyItem, List.any_eq_true, hitem, Option.some.injEq, exists_eq_left',
        Json.HasText]
      constructor
      · rintro ⟨_, hmem, s, rfl, hs⟩
        exact ⟨s, hmem, hs⟩
      · rintro ⟨s, hmem, hs⟩
        exact ⟨_, hmem, s, rfl, hs⟩
    | string s => simp [anyItem, hitem, Json.HasText]
    | null | bool b | number n | object members => simp [anyItem, hitem, Json.HasText]

/-- The value at a path fits the pattern for a text when that text stands in it, or in an item. -/
theorem Test.holds_fits_contains_iff {value : Option Json} {part : String} :
    (Test.fits (.contains part)).holds value = true ↔
      ∃ j, value = some j ∧ j.HasText fun text => Text.Contains text part :=
  Test.holds_fits_iff fun _ => Pattern.matchesText_contains

namespace Query

/-- **What a search accepts.**  A blank text and a lack of named fields let every record through;
otherwise the text, without the white space around it, stands in the value of one of the fields. -/
theorem accepts_search_iff {text : String} {paths : List String} {record : Json} :
    (search text paths).accepts record = true ↔
      Text.trim text = "" ∨ (∀ path ∈ paths, Text.isBlank path = true) ∨
        ∃ path ∈ paths, Text.isBlank path = false ∧ ∃ j, record.at? (Text.trim path) = some j ∧
          j.HasText fun s => Text.Contains s (Text.trim text) := by
  have htext : Text.trim text = "" ↔ Text.isBlank text = true := by
    rw [← Text.isEmpty_trim, String.isEmpty_iff]
  rw [htext, search, ← namedFields_eq_nil_iff, ← or_assoc]
  by_cases hnothing : Text.isBlank text = true ∨ namedFields paths = []
  · rw [if_pos (by simpa using hnothing)]
    exact iff_of_true rfl (Or.inl hnothing)
  · rw [if_neg (by simpa using hnothing), or_iff_right hnothing, accepts, anyAccepts_eq_any]
    simp only [List.any_map, List.any_eq_true, mem_namedFields_iff, Function.comp_apply, id_eq,
      accepts, Test.holds_fits_contains_iff]
    constructor
    · rintro ⟨_, ⟨path, hmem, hnamed, rfl⟩, hfits⟩
      exact ⟨path, hmem, hnamed, hfits⟩
    · rintro ⟨path, hmem, hnamed, hfits⟩
      exact ⟨_, ⟨path, hmem, hnamed, rfl⟩, hfits⟩

/-! ## Narrowing -/

theorem narrowed_everything (filter : Query) : filter.narrowed .everything = filter := by
  cases filter <;> rfl

theorem everything_narrowed (search : Query) : narrowed .everything search = search := by
  cases search <;> rfl

/-- **Two parts that constrain something are kept side by side**, even if the first one has a
connective of its own. -/
theorem narrowed_eq_all {filter search : Query} (hfilter : filter ≠ .everything)
    (hsearch : search ≠ .everything) : filter.narrowed search = .all [filter, search] := by
  have hkept : ∀ q : Query, q ≠ .everything → q.isEverything = false := by
    intro q hq
    cases q with
    | everything => exact absurd rfl hq
    | all parts | any parts | field path test => rfl
  simp [narrowed, join_eq, constraining, hkept filter hfilter, hkept search hsearch, combine]

theorem accepts_narrowed (filter search : Query) (record : Json) :
    (filter.narrowed search).accepts record = (filter.accepts record && search.accepts record) := by
  by_cases hfilter : filter = .everything
  · rw [hfilter, everything_narrowed, accepts, Bool.true_and]
  · by_cases hsearch : search = .everything
    · rw [hsearch, narrowed_everything, accepts, Bool.and_true]
    · rw [narrowed_eq_all hfilter hsearch, accepts, allAccept, allAccept, allAccept, Bool.and_true]

/-- **Different searches make different queries** of the same filter. -/
theorem narrowed_right_inj {filter search search' : Query} :
    filter.narrowed search = filter.narrowed search' ↔ search = search' := by
  refine ⟨fun h => ?_, congrArg _⟩
  -- a filter is no part of itself, so one that is narrowed is not the filter any more
  have hproper : ∀ search, filter ≠ .all [filter, search] := by
    intro search heq
    have hsize := congrArg sizeOf heq
    simp at hsize
    omega
  by_cases hfilter : filter = .everything
  · rwa [hfilter, everything_narrowed, everything_narrowed] at h
  · by_cases hsearch : search = .everything
    · by_cases hsearch' : search' = .everything
      · rw [hsearch, hsearch']
      · rw [hsearch, narrowed_everything, narrowed_eq_all hfilter hsearch'] at h
        exact absurd h (hproper search')
    · by_cases hsearch' : search' = .everything
      · rw [hsearch', narrowed_everything, narrowed_eq_all hfilter hsearch] at h
        exact absurd h.symm (hproper search)
      · rw [narrowed_eq_all hfilter hsearch, narrowed_eq_all hfilter hsearch'] at h
        simpa using h

end Query

/-! ## The query of a view -/

namespace SavedFilter

variable {settings : Settings} {fresh : FreshIds} {saved : SavedFilter} {text : String}

/-- The search that goes with a filter, below the base path of the settings. -/
def searchBelow (settings : Settings) (text : String) (fields : List String) : Query :=
  .search text (fields.map (Path.under settings.options.fieldBase))

theorem queryWithSearch_eq (fields : List String) :
    saved.queryWithSearch settings fresh text fields =
      (saved.query settings fresh).map fun filter =>
        filter.map fun q => q.narrowed (searchBelow settings text fields) := by
  rw [queryWithSearch]
  cases saved.query settings fresh <;> rfl

/-- **A search narrows a filter down.**  The query of a view compiles when its filter does.  It
accepts the records that both the filter and the search accept.  If both constrain something it is
*all* of the two, the filter first, whatever the filter is made of; if one of them constrains
nothing it is the other one.  And a search accepts a record when its text is blank, when no field
has a name, or when the text stands, in any case, in the text at one of the named fields or in an
item of an array there. -/
theorem accepts_queryWithSearch (settings : Settings) (text : String) :
    (∀ (fresh : FreshIds) (saved : SavedFilter) (fields : List String),
      ((∃ whole, saved.queryWithSearch settings fresh text fields = .ok whole) ↔
        ∃ filter, saved.query settings fresh = .ok filter) ∧
      ∀ filter whole : Noted Query, saved.query settings fresh = .ok filter →
        saved.queryWithSearch settings fresh text fields = .ok whole →
        (∀ record, whole.value.accepts record =
          (filter.value.accepts record && (searchBelow settings text fields).accepts record)) ∧
        (filter.value ≠ .everything → searchBelow settings text fields ≠ .everything →
          whole.value = .all [filter.value, searchBelow settings text fields]) ∧
        (filter.value = .everything → whole.value = searchBelow settings text fields) ∧
        (searchBelow settings text fields = .everything → whole.value = filter.value)) ∧
    ∀ (paths : List String) (record : Json),
      (Query.search text paths).accepts record = true ↔
        Text.trim text = "" ∨ (∀ path ∈ paths, Text.isBlank path = true) ∨
          ∃ path ∈ paths, Text.isBlank path = false ∧ ∃ j, record.at? (Text.trim path) = some j ∧
            j.HasText fun s => Text.Contains s (Text.trim text) := by
  refine ⟨fun fresh saved fields => ⟨?_, ?_⟩, fun paths record => Query.accepts_search_iff⟩
  · rw [queryWithSearch_eq, OffCalendar.exists_map_ok_iff]
  · intro filter whole hfilter hwhole
    rw [queryWithSearch_eq, hfilter] at hwhole
    have hvalue : filter.value.narrowed (searchBelow settings text fields) = whole.value :=
      congrArg Noted.value (Except.ok.inj hwhole)
    rw [← hvalue]
    refine ⟨Query.accepts_narrowed _ _, Query.narrowed_eq_all, fun heq => ?_, fun heq => ?_⟩
    · rw [heq, Query.everything_narrowed]
    · rw [heq, Query.narrowed_everything]

/-- A filter that asks for any of two rows, and a search beside it: of two records that the filter
accepts, the search finds the one that has the text in capitals, and does not find the other. -/
theorem accepts_queryWithSearch_any_of_two :
    ∃ filter whole : Noted Query,
      SavedFilter.query .atEpoch ⟨"group", "row"⟩
        (.advanced ⟨[⟨"g", .any, [⟨"a", "done", .known .isTrue, .nothing⟩,
          ⟨"b", "name", .known .isEmpty, .nothing⟩], []⟩], .all⟩) = .ok filter ∧
      SavedFilter.queryWithSearch .atEpoch ⟨"group", "row"⟩
        (.advanced ⟨[⟨"g", .any, [⟨"a", "done", .known .isTrue, .nothing⟩,
          ⟨"b", "name", .known .isEmpty, .nothing⟩], []⟩], .all⟩) " ada " ["name", " "] =
            .ok whole ∧
      filter.value ≠ .everything ∧ searchBelow .atEpoch " ada " ["name", " "] ≠ .everything ∧
      whole.value = .all [filter.value, searchBelow .atEpoch " ada " ["name", " "]] ∧
      whole.value.accepts
        (.object [("done", .bool true), ("name", .string "The ARMADA")]) = true ∧
      filter.value.accepts (.object [("done", .bool true), ("name", .string "The fleet")]) = true ∧
      whole.value.accepts (.object [("done", .bool true), ("name", .string "The fleet")]) = false := by
  obtain ⟨hwhole, hsearch⟩ := accepts_queryWithSearch .atEpoch " ada "
  obtain ⟨-, hparts⟩ := hwhole ⟨"group", "row"⟩
    (.advanced ⟨[⟨"g", .any, [⟨"a", "done", .known .isTrue, .nothing⟩,
      ⟨"b", "name", .known .isEmpty, .nothing⟩], []⟩], .all⟩) ["name", " "]
  obtain ⟨hrecords, hboth, -⟩ := hparts _ _ rfl rfl
  have hfilter : ∀ parts, Query.any parts ≠ .everything := fun parts => nofun
  have htrim : Text.trim " ada " = "ada" := by decide +kernel
  rw [htrim] at hsearch
  have hcapitals : Text.Contains "The ARMADA" "ada" := by
    rw [Text.contains_iff_of_ascii (by simp) (by simp)]
    exact ⟨"the arm".toList, [], by decide⟩
  have hmissing : ¬ Text.Contains "The fleet" "ada" := by
    rw [Text.contains_iff_of_ascii (by simp) (by simp)]
    decide
  have hfound : (searchBelow .atEpoch " ada " ["name", " "]).accepts
      (.object [("done", .bool true), ("name", .string "The ARMADA")]) = true :=
    (hsearch _ _).2 (Or.inr (Or.inr ⟨"name", List.mem_cons_self, rfl, _, rfl, hcapitals⟩))
  have hmissed : (searchBelow .atEpoch " ada " ["name", " "]).accepts
      (.object [("done", .bool true), ("name", .string "The fleet")]) = false := by
    rw [Bool.eq_false_iff, ne_eq, searchBelow, hsearch]
    rintro (hblank | hnameless | ⟨path, hpath, hnamed, j, hat, hj⟩)
    · exact absurd hblank (by decide)
    · exact absurd (hnameless "name" List.mem_cons_self) (by decide)
    · rcases List.mem_pair.1 hpath with rfl | rfl
      · obtain rfl := Option.some.inj hat
        exact hmissing hj
      · exact absurd hnamed (by decide)
  refine ⟨_, _, rfl, rfl, hfilter _, hfilter _, hboth (hfilter _) (hfilter _), ?_, rfl, ?_⟩
  · rw [hrecords, hfound]
    rfl
  · rw [hrecords, hmissed, Bool.and_false]

end SavedFilter

/-! ## Fields without a name -/

namespace Path

/-- Whether a base adds nothing to the paths below it: but for the white space around it, it is
empty or made of dots. -/
def AddsNothing (base : String) : Prop := ∀ c ∈ Text.trimChars base.toList, c = '.'

theorem withoutFinalDots_eq_nil_iff {text : List Char} :
    withoutFinalDots text = [] ↔ ∀ c ∈ text, c = '.' := by
  simp [withoutFinalDots_eq, List.rdropWhile_eq_nil_iff]

theorem AddsNothing.under_eq {base : String} (h : AddsNothing base) (field : String) :
    under base field = Text.trim field := by
  simp only [under, withoutFinalDots_eq_nil_iff.2 h, List.isEmpty_nil, if_true]
  rfl

/-- Below any other base, even a field without a name has one. -/
theorem isBlank_under {base : String} (h : ¬ AddsNothing base) (field : String) :
    Text.isBlank (under base field) = false := by
  have hroot : (withoutFinalDots (Text.trimChars base.toList)).isEmpty = false := by
    rw [List.isEmpty_eq_false_iff]
    exact fun hnil => h (withoutFinalDots_eq_nil_iff.1 hnil)
  have hspace : Text.isSpace '.' = false := by decide
  simp [Text.isBlank, under, hroot, hspace]

end Path

namespace Query

/-- Below a base that adds nothing, the named fields are those that have a name by themselves. -/
theorem namedFields_under {base : String} (h : Path.AddsNothing base) (fields : List String) :
    namedFields (fields.map (Path.under base)) = namedFields fields := by
  have hunder : Path.under base = Text.trim := funext h.under_eq
  have htrim : Text.trim ∘ Text.trim = Text.trim := funext Text.trim_trim
  rw [namedFields, namedFields, hunder, List.map_map, htrim]

theorem namedFields_filter (fields : List String) :
    namedFields (fields.filter fun field => !Text.isBlank field) = namedFields fields := by
  simp [namedFields_eq, List.filter_filter]

/-- Below any other base all fields are named ones. -/
theorem length_namedFields_under {base : String} (h : ¬ Path.AddsNothing base)
    (fields : List String) :
    (namedFields (fields.map (Path.under base))).length = fields.length := by
  have hnamed : ((fields.map (Path.under base)).filter fun path => !Text.isBlank path) =
      fields.map (Path.under base) := by
    rw [List.filter_eq_self]
    intro path hpath
    obtain ⟨field, -, rfl⟩ := List.mem_map.1 hpath
    rw [Path.isBlank_under h]
    rfl
  rw [namedFields_eq, hnamed, List.length_map, List.length_map]

theorem search_congr {text : String} {fields fields' : List String}
    (h : namedFields fields = namedFields fields') : search text fields = search text fields' := by
  rw [search, search, h]

theorem search_of_isBlank {text : String} (h : Text.isBlank text = true) (fields : List String) :
    search text fields = .everything := by
  rw [search, h]
  rfl

/-- A search for a text looks at each named field once. -/
theorem length_namedFields_of_search {text : String} {fields fields' : List String}
    (htext : Text.isBlank text = false) (h : search text fields = search text fields') :
    (namedFields fields).length = (namedFields fields').length := by
  rw [search, search, htext, Bool.false_or, Bool.false_or] at h
  cases hfields : namedFields fields with
  | nil =>
    cases hfields' : namedFields fields' with
    | nil => rfl
    | cons name names => simp [hfields, hfields'] at h
  | cons name names =>
    cases hfields' : namedFields fields' with
    | nil => simp [hfields, hfields'] at h
    | cons name' names' =>
      have hparts := congrArg (fun q => match q with | .any parts => parts.length | _ => 0) h
      simpa [hfields, hfields'] using hparts

end Query

namespace SavedFilter

variable {settings : Settings} {fresh : FreshIds} {saved : SavedFilter} {text : String}

theorem searchBelow_named_iff {fields : List String} :
    searchBelow settings text (fields.filter fun field => !Text.isBlank field) =
        searchBelow settings text fields ↔
      Text.isBlank text = true ∨ Path.AddsNothing settings.options.fieldBase ∨
        ∀ field ∈ fields, Text.isBlank field = false := by
  rw [searchBelow, searchBelow]
  constructor
  · intro h
    by_contra hnot
    push Not at hnot
    obtain ⟨htext, hbase, field, hmem, hblank⟩ := hnot
    -- below this base the field without a name is one more field to look at
    have hlength := Query.length_namedFields_of_search (Bool.eq_false_iff.2 htext) h
    rw [Query.length_namedFields_under hbase, Query.length_namedFields_under hbase,
      List.length_filter_eq_length_iff] at hlength
    have hnamed := hlength field hmem
    simp_all
  · rintro (htext | hbase | hnamed)
    · rw [Query.search_of_isBlank htext, Query.search_of_isBlank htext]
    · refine Query.search_congr ?_
      rw [Query.namedFields_under hbase, Query.namedFields_under hbase, Query.namedFields_filter]
    · have hall : (fields.filter fun field => !Text.isBlank field) = fields := by
        rw [List.filter_eq_self]
        intro field hmem
        rw [hnamed field hmem]
        rfl
      rw [hall]

/-- The query of a view depends on the fields of its search through the search alone, and of a
filter that has a fault it does not depend on them at all. -/
theorem queryWithSearch_inj_iff {fields fields' : List String} :
    saved.queryWithSearch settings fresh text fields =
        saved.queryWithSearch settings fresh text fields' ↔
      saved.query settings fresh = .error .offCalendar ∨
        searchBelow settings text fields = searchBelow settings text fields' := by
  rw [queryWithSearch_eq, queryWithSearch_eq]
  cases saved.query settings fresh with
  | error fault => cases fault; exact iff_of_true rfl (Or.inl rfl)
  | ok filter =>
    rw [or_iff_right nofun, ← @Query.narrowed_right_inj filter.value]
    simp [Except.map, Noted.map]

theorem queryWithSearch_nil :
    saved.queryWithSearch settings fresh text [] = saved.query settings fresh := by
  have hnothing : searchBelow settings text [] = .everything := by
    simp [searchBelow, Query.search, Query.namedFields]
  rw [queryWithSearch_eq, hnothing]
  cases saved.query settings fresh with
  | error fault => rfl
  | ok filter => simp [Except.map, Noted.map, Query.narrowed_everything]

theorem queryWithSearch_filter_iff {fields : List String} :
    saved.queryWithSearch settings fresh text (fields.filter fun field => !Text.isBlank field) =
        saved.queryWithSearch settings fresh text fields ↔
      saved.query settings fresh = .error .offCalendar ∨ Text.isBlank text = true ∨
        Path.AddsNothing settings.options.fieldBase ∨
          ∀ field ∈ fields, Text.isBlank field = false := by
  rw [queryWithSearch_inj_iff, searchBelow_named_iff]

theorem queryWithSearch_blanks_iff {blanks : List String}
    (hblanks : ∀ field ∈ blanks, Text.isBlank field = true) :
    saved.queryWithSearch settings fresh text blanks = saved.query settings fresh ↔
      saved.query settings fresh = .error .offCalendar ∨ Text.isBlank text = true ∨
        Path.AddsNothing settings.options.fieldBase ∨ blanks = [] := by
  have hnone : (blanks.filter fun field => !Text.isBlank field) = [] := by
    rw [List.filter_eq_nil_iff]
    intro field hmem
    rw [hblanks field hmem]
    exact Bool.false_ne_true
  have hempty : (∀ field ∈ blanks, Text.isBlank field = false) ↔ blanks = [] := by
    constructor
    · intro hall
      refine List.eq_nil_iff_forall_not_mem.2 fun field hmem => ?_
      exact absurd ((hall field hmem).symm.trans (hblanks field hmem)) Bool.false_ne_true
    · rintro rfl field hmem
      exact nomatch hmem
  rw [← hempty, ← queryWithSearch_filter_iff, hnone, queryWithSearch_nil]
  exact eq_comm

/-- **When fields without a name can be left out of a search.**  They make no difference where the
filter has a fault, where there is no text to search for, and below a base that adds nothing.  In
every other case a single one of them makes a difference, and a search in such fields alone is not
the filter without a search. -/
theorem queryWithSearch_named_iff (settings : Settings) (fresh : FreshIds) (saved : SavedFilter)
    (text : String) :
    (∀ fields : List String,
      saved.queryWithSearch settings fresh text (fields.filter fun field => !Text.isBlank field) =
          saved.queryWithSearch settings fresh text fields ↔
        saved.query settings fresh = .error .offCalendar ∨ Text.isBlank text = true ∨
          Path.AddsNothing settings.options.fieldBase ∨
            ∀ field ∈ fields, Text.isBlank field = false) ∧
    ∀ blanks : List String, (∀ field ∈ blanks, Text.isBlank field = true) →
      (saved.queryWithSearch settings fresh text blanks = saved.query settings fresh ↔
        saved.query settings fresh = .error .offCalendar ∨ Text.isBlank text = true ∨
          Path.AddsNothing settings.options.fieldBase ∨ blanks = []) :=
  ⟨fun _ => queryWithSearch_filter_iff, fun _ => queryWithSearch_blanks_iff⟩

/-- Below a base made of a dot, a field without a name changes nothing. -/
theorem queryWithSearch_named_below_dot :
    (∀ field ∈ [" "], Text.isBlank field = true) ∧
    SavedFilter.queryWithSearch (Settings.atEpoch.withBase " .") ⟨"group", "row"⟩ (.simple [])
        "ada" [" "] =
      SavedFilter.query (Settings.atEpoch.withBase " .") ⟨"group", "row"⟩ (.simple []) := by
  have hblank : ∀ field ∈ [" "], Text.isBlank field = true := by decide
  have hdot : Path.AddsNothing " ." := by
    intro c hc
    have hchars : Text.trimChars " .".toList = ['.'] := by decide
    rw [hchars] at hc
    exact List.mem_singleton.1 hc
  obtain ⟨-, hblanks⟩ := queryWithSearch_named_iff (Settings.atEpoch.withBase " .")
    ⟨"group", "row"⟩ (.simple []) "ada"
  exact ⟨hblank, (hblanks [" "] hblank).2 (Or.inr (Or.inr (Or.inl hdot)))⟩

/-- Below `data`, a field without a name is looked for under the name `data.`, so that a search of
no fields at all, which lets every record through, becomes one that finds nothing. -/
theorem queryWithSearch_blank_below_base :
    (SavedFilter.queryWithSearch (Settings.atEpoch.withBase "data") ⟨"group", "row"⟩ (.simple [])
        "ada" [" "]).map Noted.value =
      .ok (.any [.field "data." (.fits (.contains "ada"))]) ∧
    (SavedFilter.queryWithSearch (Settings.atEpoch.withBase "data") ⟨"group", "row"⟩ (.simple [])
        "ada" ([" "].filter fun field => !Text.isBlank field)).map Noted.value = .ok .everything ∧
    SavedFilter.queryWithSearch (Settings.atEpoch.withBase "data") ⟨"group", "row"⟩ (.simple [])
        "ada" [" "] ≠
      SavedFilter.queryWithSearch (Settings.atEpoch.withBase "data") ⟨"group", "row"⟩ (.simple [])
        "ada" ([" "].filter fun field => !Text.isBlank field) := by
  refine ⟨rfl, rfl, fun h => ?_⟩
  have hvalue := congrArg (Except.map Noted.value) h
  exact nomatch (Except.ok.inj hvalue :
    Query.any [.field "data." (.fits (.contains "ada"))] = .everything)

end SavedFilter
end RecordFilter
