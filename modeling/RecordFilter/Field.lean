import RecordFilter.Text.Space
import RecordFilter.Text.Title

/-!
# Fields

A field is an attribute of a record that filters may test.

* `FieldKind` — what kind of values a field holds.  `FieldKind.basis` is the kind that decides which
  operators it has: many kinds are filtered as text.
* `Field` — the path of a field, its header and its kind.
* `headerOfPath` — the header of a field that has none of its own.
-/

set_option autoImplicit false

namespace RecordFilter

/-- What kind of values a field holds. -/
inductive FieldKind where
  | text
  | number
  | date
  | boolean
  | select
  | email
  | phone
  | url
  | id
  | image
  | object
  deriving DecidableEq

namespace FieldKind

/-- All kinds. -/
def all : List FieldKind :=
  [text, number, date, boolean, select, email, phone, url, id, image, object]

/-- The name of a kind. -/
def name : FieldKind → String
  | text => "text"
  | number => "number"
  | date => "date"
  | boolean => "boolean"
  | select => "select"
  | email => "email"
  | phone => "phone"
  | url => "url"
  | id => "id"
  | image => "image"
  | object => "object"

/-- The kind with this name, white space and the case of letters ignored.  Any other name means
text. No letter outside ASCII has a lower case form that occurs in a name. -/
def ofName (text : String) : FieldKind :=
  (all.find? fun kind => Text.sameIgnoringCase (Text.trim text) kind.name).getD .text

/-- The kind whose operators a field has. -/
def basis : FieldKind → FieldKind
  | number => number
  | date => date
  | boolean => boolean
  | select => select
  | text | email | phone | url | id | image | object => text

/-- Whether free text search runs over the fields of this kind. -/
def isSearchable : FieldKind → Bool
  | text | email | phone | url => true
  | number | date | boolean | select | id | image | object => false

end FieldKind

/-- The last segment of a dotted path. -/
def lastSegment (path : String) : List Char :=
  (path.toList.reverse.takeWhile fun c => c != '.').reverse

/-- The last segment of a dotted path as a title: `social.linkedIn` has the header `Linked In`. -/
def headerOfPath (path : String) : String := String.ofList (Text.title (lastSegment path))

/-- A field with its header and kind.  Dots in the path lead into nested records. -/
structure Field where
  path : String
  ownHeader : String
  kind : FieldKind
  deriving DecidableEq

namespace Field

/-- A field whose header comes from its path. -/
def ofPath (path : String) (kind : FieldKind) : Field := ⟨path, headerOfPath path, kind⟩

/-- The header to show: the field's own unless it is blank. -/
def header (field : Field) : String :=
  if Text.isBlank field.ownHeader then headerOfPath field.path else field.ownHeader

end Field
end RecordFilter
