import RecordFilter.Condition
import RecordFilter.Json.Reader
import RecordFilter.Json.Record

/-!
# The stored form of a condition

A condition is stored as a flat record.  Its values stand in four slots, of which the operator
decides which ones are read; if the operator is not known, whatever slot is filled is kept.

* `Condition.toJson` — writes a condition.
* `Condition.ofJson?` — reads one; every member may be missing.
* `Condition.outline` — the members of the record.
-/

set_option autoImplicit false

namespace RecordFilter

/-- An optional literal in a slot of a record. -/
def Literal.slot (name : String) : Option Literal → List (String × Json)
  | some value => [(name, value.toJson)]
  | none => []

/-- The literal in a slot of a record. -/
def Literal.ofSlot? (members : List (String × Json)) (name : String) : Option Literal :=
  (members.lookup name).bind Literal.ofJson?

namespace Argument

/-- The slots that are filled. -/
def slots : Argument → List (String × Json)
  | nothing => []
  | single value => Literal.slot "value" (some value)
  | range lower upper => Literal.slot "valueFrom" lower ++ Literal.slot "valueTo" upper
  | relative key => [("dateRelative", .string key)]

/-- The key of a relative period in its slot. -/
def keySlot? (members : List (String × Json)) : Option String :=
  (members.lookup "dateRelative").bind Json.string?

/-- A single value from its slot. -/
def ofValueSlot (members : List (String × Json)) : Argument :=
  match Literal.ofSlot? members "value" with
  | some value => single value
  | none => nothing

/-- The values from the slot that is filled; the key of a period comes first, then a range. -/
def ofFilledSlots (members : List (String × Json)) : Argument :=
  match keySlot? members with
  | some key => relative key
  | none =>
    match Literal.ofSlot? members "valueFrom", Literal.ofSlot? members "valueTo" with
    | none, none => ofValueSlot members
    | lower, upper => range lower upper

/-- The values that an operator takes from the slots. -/
def ofSlots (members : List (String × Json)) : Operator → Argument
  | .unknown _ => ofFilledSlots members
  | .known verb =>
    match verb.arity with
    | .nothing => nothing
    | .single => ofValueSlot members
    | .range =>
      range (Literal.ofSlot? members "valueFrom") (Literal.ofSlot? members "valueTo")
    | .relative => relative ((keySlot? members).getD "")

end Argument

namespace Condition

/-- The names of the members, in their order. -/
def memberNames : List String :=
  ["id", "field", "operator", "value", "valueFrom", "valueTo", "dateRelative"]

/-- What is read of a stored condition. -/
def outline : Outline := .record (memberNames.map fun name => (name, .whole))

/-- The stored form of a condition. -/
def toJson (c : Condition) : Json :=
  .object ([("id", .string c.id), ("field", .string c.field),
    ("operator", .string c.operator.key)] ++ c.argument.slots)

/-- Reads a stored condition. -/
def ofJson? (j : Json) : Option Condition := do
  let members ← j.record? memberNames
  let id ← Json.textMember? members "id" ""
  let field ← Json.textMember? members "field" ""
  let key ← Json.textMember? members "operator" ""
  return ⟨id, field, .ofKey key, .ofSlots members (.ofKey key)⟩

/-- Reads a stored list of conditions. -/
def listOfJson? : Json → Option (List Condition)
  | .array items => items.mapM ofJson?
  | _ => none

end Condition
end RecordFilter
