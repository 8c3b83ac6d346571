import RecordFilter.Calendar.Printer
import RecordFilter.Json.Printer
import RecordFilter.Query

/-!
# Queries as documents

A query is handed to a document store as a JSON document.  The members of each object stand in the
order of their names.

* `Operand.toJson` — a value; whole numbers below `2 ^ 53` are written as integers, and what is no
  finite number as null.
* `Test.toJson` — a test of a field.
* `Query.document` — a query; the one that constrains nothing is the empty document.
* `Query.text` — the text of the document.
-/

set_option autoImplicit false

namespace RecordFilter

/-- A whole number below `2 ^ 53` fits into a word. -/
theorem fitsWord_of_natAbs_lt {n : Int} (h : n.natAbs < 9007199254740992) : FitsWord n :=
  ⟨by omega, by omega⟩

/-- A finite number in a document. -/
def FiniteDouble.toJson (x : FiniteDouble) : Json :=
  match x.whole? with
  | some n =>
    if h : n.natAbs < 9007199254740992 then .number (.integer n (fitsWord_of_natAbs_lt h))
    else .number (.double x)
  | none => .number (.double x)

mutual

/-- A value in a document. -/
def Operand.toJson : Operand → Json
  | .null => .null
  | .bool b => .bool b
  | .number (.finite x) => x.toJson
  | .number (.infinite _) => .null
  | .number .notANumber => .null
  | .text s => .string s
  | .date t => .object [("$date", .string t.text)]
  | .list items => .array (Operand.toItems items)

/-- The items of a list in a document. -/
def Operand.toItems : List Operand → List Json
  | [] => []
  | x :: rest => Operand.toJson x :: Operand.toItems rest

end

/-- A pattern in a document. -/
def Pattern.toJson (p : Pattern) : Json :=
  .object ((if p.ignoreCase then [("$options", .string "i")] else []) ++
    [("$regex", .string p.source)])

/-- A test in a document. -/
def Test.toJson : Test → Json
  | .equals x => .object [("$eq", x.toJson)]
  | .differs x => .object [("$ne", x.toJson)]
  | .above x => .object [("$gt", x.toJson)]
  | .atLeast x => .object [("$gte", x.toJson)]
  | .below x => .object [("$lt", x.toJson)]
  | .atMost x => .object [("$lte", x.toJson)]
  | .between lower upper => .object [("$gte", lower.toJson), ("$lte", upper.toJson)]
  | .fits p => p.toJson
  | .failsToFit p => .object [("$not", p.toJson)]
  | .isPresent expected => .object [("$exists", .bool expected)]
  | .oneOf items => .object [("$in", .array (Operand.toItems items))]
  | .noneOf items => .object [("$nin", .array (Operand.toItems items))]

namespace Query

mutual

/-- The document of a query. -/
def document : Query → Json
  | .everything => .object []
  | .all parts => .object [("$and", .array (documents parts))]
  | .any parts => .object [("$or", .array (documents parts))]
  | .field path test => .object [(path, test.toJson)]

/-- The documents of these queries. -/
def documents : List Query → List Json
  | [] => []
  | q :: rest => document q :: documents rest

end

/-- The text of the document of a query. -/
def text (q : Query) : String := q.document.text

end Query
end RecordFilter
