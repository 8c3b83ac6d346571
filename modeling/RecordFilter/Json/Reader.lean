import RecordFilter.Json.Source

/-!
# Reading JSON texts

A text is read for a purpose: the members that nobody asks for are checked for their structure only.
An `Outline` says what is asked for.

* `Outline` — everything; a list; or a record with named members, which may also be given as an
  array of the members in their order.
* `Source.read?` — the value of a source as far as an outline asks for it.  Values nested deeper
  than `nestingLimit` are refused.
* `Json.ofText?` — the whole value of a text.
-/

set_option autoImplicit false

namespace RecordFilter

/-- Which parts of a value are asked for. -/
inductive Outline where
  /-- All of it. -/
  | whole
  /-- A list, and of each item what the outline of an item asks for. -/
  | list (item : Outline)
  /-- A record with these members. -/
  | record (members : List (String × Outline))
  /-- A record of the kind in which this outline stands. -/
  | nested

/-- How deep values may be nested in a text. -/
def nestingLimit : Nat := 127

namespace Source

mutual

/-- The value of a source as far as the outline asks for it.  `depth` is how much deeper values may
be nested, and `enclosing` holds the members of the record in which the source stands. -/
def read? (depth : Nat) (enclosing : List (String × Outline)) (outline : Outline) :
    Source → Option Json
  | .null => some .null
  | .bool b => some (.bool b)
  | .number numeral => numeral.number?.map .number
  | .string pieces => (Piece.text? pieces).map .string
  | .array items =>
    match depth with
    | 0 => none
    | depth + 1 =>
      match outline with
      | .whole => (readItems? depth enclosing .whole items).map .array
      | .list item => (readItems? depth enclosing item items).map .array
      | .record members => (readInOrder? depth members (members.map (·.2)) items).map .array
      | .nested => (readInOrder? depth enclosing (enclosing.map (·.2)) items).map .array
  | .object written =>
    match depth with
    | 0 => none
    | depth + 1 =>
      match outline with
      | .whole | .list _ => (readAllMembers? depth written).map .object
      | .record members => (readMembers? depth members written).map .object
      | .nested => (readMembers? depth enclosing written).map .object

/-- The items of a list, all of one outline. -/
def readItems? (depth : Nat) (enclosing : List (String × Outline)) (outline : Outline) :
    List Source → Option (List Json)
  | [] => some []
  | item :: rest =>
    match read? depth enclosing outline item, readItems? depth enclosing outline rest with
    | some j, some js => some (j :: js)
    | _, _ => none

/-- The members of a record given as a list, each of its own outline. -/
def readInOrder? (depth : Nat) (enclosing : List (String × Outline)) (outlines : List Outline) :
    List Source → Option (List Json)
  | [] => some []
  | item :: rest =>
    match read? depth enclosing (outlines.headD .whole) item,
        readInOrder? depth enclosing outlines.tail rest with
    | some j, some js => some (j :: js)
    | _, _ => none

/-- The members of a record.  One that is not asked for only needs a name that can be read. -/
def readMembers? (depth : Nat) (asked : List (String × Outline)) :
    List (List Piece × Source) → Option (List (String × Json))
  | [] => some []
  | (pieces, value) :: rest =>
    match Piece.text? pieces with
    | none => none
    | some name =>
      match asked.lookup name with
      | none => readMembers? depth asked rest
      | some outline =>
        match read? depth asked outline value, readMembers? depth asked rest with
        | some j, some members => some ((name, j) :: members)
        | _, _ => none

/-- All members of an object, each read as a whole. -/
def readAllMembers? (depth : Nat) : List (List Piece × Source) → Option (List (String × Json))
  | [] => some []
  | (pieces, value) :: rest =>
    match Piece.text? pieces, read? depth [] .whole value, readAllMembers? depth rest with
    | some name, some j, some members => some ((name, j) :: members)
    | _, _, _ => none

end

end Source

/-- The value of a text as far as an outline asks for it. -/
def Outline.ofText? (outline : Outline) (text : String) : Option Json :=
  (Source.ofText? text).bind (Source.read? nestingLimit [] outline)

/-- The whole value of a text. -/
def Json.ofText? (text : String) : Option Json := Outline.whole.ofText? text

end RecordFilter
