import RecordFilter.Field
import RecordFilter.Json.Reader
import RecordFilter.Json.Record

/-!
# Catalogs

A catalog lists the fields that records of one sort have.

* `Catalog.find?` — the first field with a given path.
* `Catalog.kindOf`, `Catalog.headerOf` — kind and header of a path; an unlisted one is a text.
* `Catalog.searchable` — the fields that free text search runs over by default.
* `Catalog.toJson`, `Catalog.ofJson?` — the stored form.
-/

set_option autoImplicit false

namespace RecordFilter

/-- The fields of one sort of records, in the order in which they are shown. -/
structure Catalog where
  fields : List Field

namespace Field

/-- The stored form of a field. -/
def toJson (field : Field) : Json :=
  .object [("field", .string field.path), ("headerName", .string field.ownHeader),
    ("type", .string field.kind.name)]

/-- The members of a stored field. -/
def outline : Outline := .record [("field", .whole), ("headerName", .whole), ("type", .whole)]

/-- Reads a stored field.  The path is required; the kind is text unless it is given. -/
def ofJson? (j : Json) : Option Field := do
  let members ← j.record? ["field", "headerName", "type"]
  let path ← (members.lookup "field").bind Json.string?
  let ownHeader ← Json.textMember? members "headerName" ""
  let kind ← Json.textMember? members "type" "text"
  return ⟨path, ownHeader, .ofName kind⟩

end Field

namespace Catalog

/-- The first field with this path. -/
def find? (catalog : Catalog) (path : String) : Option Field :=
  catalog.fields.find? fun field => field.path == path

/-- The kind of the field with this path. -/
def kindOf (catalog : Catalog) (path : String) : FieldKind :=
  ((catalog.find? path).map Field.kind).getD .text

/-- The header of the field with this path. -/
def headerOf (catalog : Catalog) (path : String) : String :=
  match catalog.find? path with
  | some field => field.header
  | none => headerOfPath path

/-- The paths that free text search runs over by default. -/
def searchable (catalog : Catalog) : List String :=
  (catalog.fields.filter fun field => field.kind.isSearchable).map Field.path

/-- Whether a catalog lists no field. -/
def isEmpty (catalog : Catalog) : Bool := catalog.fields.isEmpty

/-- The stored form of a catalog. -/
def toJson (catalog : Catalog) : Json := .array (catalog.fields.map Field.toJson)

/-- What is read of a stored catalog. -/
def outline : Outline := .list Field.outline

/-- Reads a stored catalog. -/
def ofJson? : Json → Option Catalog
  | .array items => (items.mapM Field.ofJson?).map Catalog.mk
  | _ => none

end Catalog
end RecordFilter
