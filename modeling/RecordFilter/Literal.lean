import RecordFilter.Json.Printer
import RecordFilter.Number.Reading
import RecordFilter.Text.Space

/-!
# Literals

A literal is a value that a condition compares with.

* `Literal` — a boolean, a number, a text, or a list.
* `Literal.ofJson?`, `Literal.toJson` — the stored form.  Nulls and objects are no literals.
* `Literal.number?`, `Literal.text?`, `Literal.bool?` — a literal read as another kind of value.
* `Literal.display` — how a literal is shown.
-/

set_option autoImplicit false

namespace RecordFilter

/-- A value that a condition compares with. -/
inductive Literal where
  | bool (b : Bool)
  | number (n : Json.Number)
  | text (s : String)
  | list (items : List Literal)

namespace Literal

mutual

/-- The literal that a stored value holds, if it holds one. -/
def ofJson? : Json → Option Literal
  | .null => none
  | .bool b => some (.bool b)
  | .number n => some (.number n)
  | .string s => some (.text s)
  | .array items => some (.list (ofItems items))
  | .object _ => none

/-- The literals among the items of an array. -/
def ofItems : List Json → List Literal
  | [] => []
  | j :: rest =>
    match ofJson? j with
    | some v => v :: ofItems rest
    | none => ofItems rest

end

mutual

/-- The stored form of a literal. -/
def toJson : Literal → Json
  | .bool b => .bool b
  | .number n => .number n
  | .text s => .string s
  | .list items => .array (toItems items)

/-- The stored forms of the items of a list. -/
def toItems : List Literal → List Json
  | [] => []
  | v :: rest => toJson v :: toItems rest

end

/-- The literal for a number; what is no finite number becomes a text. -/
def ofDouble : Double → Literal
  | .finite x => .number (.double x)
  | .infinite true => .text "-inf"
  | .infinite false => .text "inf"
  | .notANumber => .text "NaN"

/-- The finite number that a literal is, or that its text reads as. -/
def number? : Literal → Option FiniteDouble
  | .number n => n.toDouble.finite?
  | .text s => (Double.ofText? (Text.trim s)).bind Double.finite?
  | .bool _ | .list _ => none

/-- The text of a literal that is not a list. -/
def text? : Literal → Option String
  | .text s => some s
  | .number n => some (String.ofList n.chars)
  | .bool true => some "true"
  | .bool false => some "false"
  | .list _ => none

/-- The boolean that a literal is, or that its text names. -/
def bool? : Literal → Option Bool
  | .bool b => some b
  | .text s =>
    if Text.sameIgnoringCase (Text.trim s) "true" then some true
    else if Text.sameIgnoringCase (Text.trim s) "false" then some false
    else none
  | .number _ | .list _ => none

/-- The items of a list; another literal is a single item. -/
def items : Literal → List Literal
  | .list items => items
  | v => [v]

/-- Whether a literal is a blank text or an empty list. -/
def isBlank : Literal → Bool
  | .text s => Text.isBlank s
  | .list items => items.isEmpty
  | .bool _ | .number _ => false

mutual

/-- How a literal is shown: the items of a list are separated by a comma and a space. -/
def display : Literal → String
  | .bool true => "true"
  | .bool false => "false"
  | .number n => String.ofList n.chars
  | .text s => s
  | .list items => displayItems items

/-- The items of a list, separated by a comma and a space. -/
def displayItems : List Literal → String
  | [] => ""
  | [v] => display v
  | v :: next :: rest => display v ++ ", " ++ displayItems (next :: rest)

end

end Literal
end RecordFilter
