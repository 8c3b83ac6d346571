import RecordFilter.Calendar.Reader
import RecordFilter.Path
import RecordFilter.Query.Pattern

/-!
# Matching records

A query is matched with a record as a document store would match it.  A missing field equals null,
negated tests hold of a missing field, and a test of a single value holds of an array when it holds
of some item.

* `Json.instant?` — the instant that a stored value is read as.
* `Test.holds` — whether the value at a path, if there is one, passes a test.
* `Query.accepts` — whether a record matches a query.
-/

set_option autoImplicit false

namespace RecordFilter

/-! ## Values and operands -/

/-- The instant that a text is read as: an instant in the format of RFC 3339, or the beginning of a
day in universal time. -/
def Instant.ofText? (text : String) : Option Instant :=
  match Moment.ofText? text with
  | some m => some m.instant
  | none => (Day.ofText? text).bind fun day => day.start? .zero

/-- The instant that a stored value is read as: a text, or an object with the member `$date`. -/
def Json.instant? : Json → Option Instant
  | .string s => Instant.ofText? s
  | .object members =>
    match members.lookup "$date" with
    | some (.string s) => Instant.ofText? s
    | _ => none
  | _ => none

namespace Operand

/-- Whether an operand is a list. -/
def isList : Operand → Bool
  | list _ => true
  | _ => false

mutual

/-- Whether a stored value is equal to an operand. -/
def equalsValue : Operand → Json → Bool
  | .null, .null => true
  | .bool expected, .bool actual => expected == actual
  | .number expected, .number actual => actual.toDouble.equals expected
  | .text expected, .string actual => expected == actual
  | .date expected, value => value.instant? == some expected
  | .list expected, .array actual => equalsItems expected actual
  | _, _ => false

/-- Whether stored values are equal to operands one by one. -/
def equalsItems : List Operand → List Json → Bool
  | [], [] => true
  | x :: xs, j :: js => equalsValue x j && equalsItems xs js
  | _, _ => false

end

/-- How a stored value compares with an operand, if they can be compared. -/
def compareValue? (value : Json) : Operand → Option Ordering
  | .number x =>
    match value with
    | .number n => n.toDouble.compare? x
    | _ => none
  | .text s =>
    match value with
    | .string t => some (compare t s)
    | _ => none
  | .date t => value.instant?.map fun u => u.compare t
  | .null | .bool _ | .list _ => none

end Operand

/-! ## Tests -/

/-- Whether a value passes a test, or some item of an array does. -/
def anyItem (value : Option Json) (passes : Json → Bool) : Bool :=
  match value with
  | none => false
  | some (.array items) => items.any passes
  | some j => passes j

namespace Operand

/-- Whether the value at a path equals an operand: a missing one equals null, and an array equals a
single value when some item does. -/
def equalsAt (value : Option Json) (x : Operand) : Bool :=
  match value with
  | none =>
    match x with
    | .null => true
    | _ => false
  | some (.array items) =>
    if x.isList then x.equalsValue (.array items) else items.any x.equalsValue
  | some j => x.equalsValue j

/-- Whether a value is greater than an operand. -/
def isBelow (x : Operand) (j : Json) : Bool := x.compareValue? j == some .gt

/-- Whether a value is less than an operand. -/
def isAbove (x : Operand) (j : Json) : Bool := x.compareValue? j == some .lt

/-- Whether a value is greater than an operand or equal to it. -/
def isAtMost (x : Operand) (j : Json) : Bool := (x.compareValue? j).any Ordering.isGE

/-- Whether a value is less than an operand or equal to it. -/
def isAtLeast (x : Operand) (j : Json) : Bool := (x.compareValue? j).any Ordering.isLE

end Operand

/-- Whether a value is a text that fits a pattern. -/
def Pattern.fitsValue (p : Pattern) : Json → Bool
  | .string s => p.matchesText s
  | _ => false

/-- Whether the value at a path, if there is one, passes a test. -/
def Test.holds (value : Option Json) : Test → Bool
  | .isPresent expected => value.isSome == expected
  | .equals x => x.equalsAt value
  | .differs x => !x.equalsAt value
  | .above x => anyItem value x.isBelow
  | .atLeast x => anyItem value x.isAtMost
  | .below x => anyItem value x.isAbove
  | .atMost x => anyItem value x.isAtLeast
  | .between lower upper => anyItem value fun j => lower.isAtMost j && upper.isAtLeast j
  | .fits p => anyItem value p.fitsValue
  | .failsToFit p => !anyItem value p.fitsValue
  | .oneOf items => items.any fun x => x.equalsAt value
  | .noneOf items => !items.any fun x => x.equalsAt value

/-! ## Queries -/

namespace Query

mutual

/-- Whether a record matches a query. -/
def accepts (record : Json) : Query → Bool
  | .everything => true
  | .all parts => allAccept record parts
  | .any parts => anyAccepts record parts
  | .field path test => test.holds (record.at? path)

/-- Whether a record matches all of these queries. -/
def allAccept (record : Json) : List Query → Bool
  | [] => true
  | q :: rest => q.accepts record && allAccept record rest

/-- Whether a record matches one of these queries. -/
def anyAccepts (record : Json) : List Query → Bool
  | [] => false
  | q :: rest => q.accepts record || anyAccepts record rest

end

end Query
end RecordFilter
