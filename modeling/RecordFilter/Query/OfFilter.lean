import RecordFilter.Filter.Stored
import RecordFilter.Query.Document
import RecordFilter.Query.OfCondition

/-!
# The query of a filter

A group combines the queries of its rows and of its groups, in this order; so does a filter with its
top-level groups.  Parts that constrain nothing drop out.

* `Group.query` — the query of a group, with a note of what it came to.
* `Filter.query` — the query of a filter.
* `Query.search` — free text search; `Query.narrowed` combines it with a filter.
* `SavedFilter.queryWithSearch` — the whole query of a view.
-/

set_option autoImplicit false

namespace RecordFilter

/-- The queries of these rows. -/
def Condition.queries (settings : Settings) (base : String) :
    List Condition → Except OffCalendar (Noted (List Query))
  | [] => .ok ⟨[], []⟩
  | c :: rest => do
    let first ← c.query settings base
    let others ← Condition.queries settings base rest
    return ⟨first.value :: others.value, first.notes ++ others.notes⟩

namespace Group

/-- What is noted of a compiled group. -/
def compiledNote (id : String) (query : Query) : Note :=
  ⟨.trace, "Compiled group '" ++ id ++ "' to " ++ query.text⟩

mutual

/-- The query of a group whose fields lie below `base`. -/
def query (settings : Settings) (base : String) : Group → Except OffCalendar (Noted Query)
  | ⟨id, connective, conditions, groups⟩ => do
    let own ← Condition.queries settings base conditions
    let nested ← queries settings base groups
    let joined := Query.join connective (own.value ++ nested.value)
    return ⟨joined, own.notes ++ nested.notes ++ [compiledNote id joined]⟩

/-- The queries of these groups. -/
def queries (settings : Settings) (base : String) :
    List Group → Except OffCalendar (Noted (List Query))
  | [] => .ok ⟨[], []⟩
  | g :: rest => do
    let first ← query settings base g
    let others ← queries settings base rest
    return ⟨first.value :: others.value, first.notes ++ others.notes⟩

end

end Group

/-- The query of a filter. -/
def Filter.query (settings : Settings) (f : Filter) : Except OffCalendar (Noted Query) := do
  let parts ← Group.queries settings settings.options.fieldBase f.groups
  return parts.map (Query.join f.connective)

/-- The query of the filter of a view. -/
def SavedFilter.query (settings : Settings) (fresh : FreshIds) (saved : SavedFilter) :
    Except OffCalendar (Noted Query) :=
  (saved.toFilter fresh).query settings

namespace Query

/-- The fields with any name at all, without white space around them. -/
def namedFields (fields : List String) : List String :=
  (fields.map Text.trim).filter fun field => !field.isEmpty

/-- Search for a text in fields: in one of them it occurs, in any case.  A blank text, or no field
with a name, constrains nothing. -/
def search (text : String) (fields : List String) : Query :=
  if Text.isBlank text || (namedFields fields).isEmpty then .everything
  else
    .any ((namedFields fields).map fun field => .field field (.fits (.contains (Text.trim text))))

/-- A filter narrowed down by a search. -/
def narrowed (filter search : Query) : Query := join .all [filter, search]

end Query

/-- The query of a view: its filter, narrowed down by a search for a text in fields. -/
def SavedFilter.queryWithSearch (settings : Settings) (fresh : FreshIds) (saved : SavedFilter)
    (text : String) (fields : List String) : Except OffCalendar (Noted Query) := do
  let filter ← saved.query settings fresh
  let paths := fields.map (Path.under settings.options.fieldBase)
  return filter.map fun q => q.narrowed (.search text paths)

end RecordFilter
