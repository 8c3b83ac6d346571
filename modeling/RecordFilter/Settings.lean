import RecordFilter.Calendar.Reader
import RecordFilter.Catalog

/-!
# Settings of the compiler

* `Options` — what a host may configure, and its stored form.
* `Settings` — all that compiling depends on besides the filter.
-/

set_option autoImplicit false

namespace RecordFilter

/-- What a host may configure. -/
structure Options where
  /-- The path below which all fields lie. -/
  fieldBase : String
  /-- The day on which weeks begin. -/
  weekStart : Weekday

/-- What compiling depends on besides the filter. -/
structure Settings where
  now : Moment
  options : Options
  catalog : Option Catalog

namespace Options

/-- No path in front of the fields, and weeks that begin on Sunday. -/
def default : Options := ⟨"", .sunday⟩

/-- The names of the members, in their order. -/
def memberNames : List String := ["fieldPrefix", "weekStart"]

/-- What is read of stored options. -/
def outline : Outline := .record (memberNames.map fun name => (name, .whole))

/-- The stored form of options. -/
def toJson (o : Options) : Json :=
  .object [("fieldPrefix", .string o.fieldBase), ("weekStart", .string o.weekStart.shortName)]

/-- Reads stored options; a missing member has its default. -/
def ofJson? (j : Json) : Option Options := do
  let members ← j.record? memberNames
  let fieldBase ← Json.textMember? members "fieldPrefix" default.fieldBase
  let name ← Json.textMember? members "weekStart" default.weekStart.shortName
  let weekStart ← Weekday.ofText? name
  return ⟨fieldBase, weekStart⟩

end Options
end RecordFilter
