import RecordFilter.Calendar.Instant
import RecordFilter.Filter
import RecordFilter.Number.Double

/-!
# Queries

A query is what a filter is compiled to: tests of fields, combined by *all* and *any*.

* `Operand` — a value in a query.
* `Pattern` — a regular expression for texts.
* `Test` — a test of one field.
* `Query` — the tree.  `Query.everything` constrains nothing.
* `Query.join` — combines queries, leaving out those that constrain nothing.
-/

set_option autoImplicit false

namespace RecordFilter

/-- A value in a query. -/
inductive Operand where
  | null
  | bool (b : Bool)
  | number (x : Double)
  | text (s : String)
  | date (t : Instant)
  | list (items : List Operand)

/-- A regular expression, given by its source. -/
structure Pattern where
  source : String
  ignoreCase : Bool
  deriving DecidableEq

/-- A test of one field. -/
inductive Test where
  | equals (x : Operand)
  | differs (x : Operand)
  | above (x : Operand)
  | atLeast (x : Operand)
  | below (x : Operand)
  | atMost (x : Operand)
  /-- Both ends belong to the range. -/
  | between (lower upper : Operand)
  | fits (pattern : Pattern)
  | failsToFit (pattern : Pattern)
  | isPresent (expected : Bool)
  | oneOf (items : List Operand)
  | noneOf (items : List Operand)

/-- A query over records. -/
inductive Query where
  | everything
  | all (parts : List Query)
  | any (parts : List Query)
  | field (path : String) (test : Test)

mutual

/-- The value in a query that a literal stands for. -/
def Operand.ofLiteral : Literal → Operand
  | .bool b => .bool b
  | .number n => .number n.toDouble
  | .text s => .text s
  | .list items => .list (Operand.ofLiterals items)

/-- The values that the items of a list stand for. -/
def Operand.ofLiterals : List Literal → List Operand
  | [] => []
  | v :: rest => Operand.ofLiteral v :: Operand.ofLiterals rest

end

namespace Query

/-- Whether a query is the one that constrains nothing. -/
def isEverything : Query → Bool
  | everything => true
  | _ => false

/-- Two or more queries under a connective. -/
def combine : Connective → List Query → Query
  | .all, parts => all parts
  | .any, parts => any parts

/-- Combines queries.  Those that constrain nothing are left out; if none is left the result
constrains nothing, and a single one is the result itself. -/
def join (connective : Connective) (parts : List Query) : Query :=
  match parts.filter fun q => !q.isEverything with
  | [] => everything
  | [part] => part
  | parts => combine connective parts

end Query
end RecordFilter
