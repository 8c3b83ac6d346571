import RecordFilter.Catalog
import RecordFilter.Filter
import RecordFilter.Journal
import RecordFilter.Operator.Offered
import RecordFilter.Period

/-!
# Validating filters

A row is checked against a catalog: its field has to be listed, its operator has to suit the field,
and its values have to be there.  Only the first problem of a row is reported; rows without a field
have none.

* `Problem` — what may be wrong, and `Problem.message`.
* `Condition.problem?` — the problem of a row.
* `Condition.validate`, `Filter.validate` — the problems, with notes.
-/

set_option autoImplicit false

namespace RecordFilter

/-- What may be wrong with a stored filter or with one of its rows. -/
inductive Problem where
  /-- The stored form cannot be read. -/
  | malformed (reason : String)
  /-- The catalog does not list the field. -/
  | unknownField (field : String)
  /-- The operator does not suit the kind of the field. -/
  | unsupportedOperator (field kind operator : String) (supported : List String)
  /-- The operator has no value. -/
  | missingValue (field operator : String)
  /-- An end of the range is missing. -/
  | incompleteRange (field operator : String)
  /-- The key names no period. -/
  | unknownPeriod (field key : String)
  deriving DecidableEq

/-- A problem in words. -/
def Problem.message : Problem → String
  | malformed reason => "Malformed filter: " ++ reason
  | unknownField field => "Unknown field '" ++ field ++ "'"
  | unsupportedOperator field kind operator supported =>
    "Cannot use '" ++ operator ++ "' operator on " ++ kind ++ " field '" ++ field ++
      "'. Supported: " ++ String.intercalate ", " supported
  | missingValue field operator =>
    "Operator '" ++ operator ++ "' on field '" ++ field ++ "' needs a value"
  | incompleteRange field operator =>
    "Operator '" ++ operator ++ "' on field '" ++ field ++
      "' needs both a start and an end value"
  | unknownPeriod field key =>
    "Unknown relative period '" ++ key ++ "' on field '" ++ field ++ "'"

/-- Whether a value is there and is not blank. -/
def Literal.isPresent : Option Literal → Bool
  | some value => !value.isBlank
  | none => false

namespace Condition

/-- What is wrong with the values of a row whose field is `field`. -/
def valueProblem? (c : Condition) (field : String) : Option Problem :=
  match c.operator.arity, c.argument with
  | .nothing, _ => none
  | .single, .single value =>
    if value.isBlank then some (.missingValue field c.operator.key) else none
  | .single, _ => some (.missingValue field c.operator.key)
  | .range, .range lower upper =>
    if Literal.isPresent lower && Literal.isPresent upper then none
    else some (.incompleteRange field c.operator.key)
  | .range, _ => some (.incompleteRange field c.operator.key)
  | .relative, .relative key =>
    if Text.isBlank key then some (.missingValue field c.operator.key)
    else if (Period.ofKey? key).isSome then none
    else some (.unknownPeriod field key)
  | .relative, _ => some (.missingValue field c.operator.key)

/-- What is wrong with a row that has a field. -/
def problem? (c : Condition) (catalog : Catalog) : Option Problem :=
  let path := Text.trim c.field
  match catalog.find? path with
  | none => some (.unknownField path)
  | some field =>
    if field.kind.supports c.operator then c.valueProblem? path
    else some (.unsupportedOperator path field.kind.name c.operator.key
      (field.kind.verbs.map Verb.key))

/-- The problems of a row, of which there is at most one. -/
def validate (c : Condition) (catalog : Catalog) : Noted (List Problem) :=
  if c.isBlank then ⟨[], []⟩
  else
    .debug ("Validating condition '" ++ c.id ++ "' on field '" ++ Text.trim c.field ++ "'")
      (c.problem? catalog).toList

end Condition

namespace Filter

/-- What is said of a filter with problems. -/
def problemNotes (problems : List Problem) : List Note :=
  if problems.isEmpty then []
  else [⟨.debug, "Filter failed validation with " ++
    String.ofList (Digits.decimal problems.length) ++ " errors"⟩]

/-- The problems of all rows, in the order of the rows. -/
def validate (f : Filter) (catalog : Catalog) : Noted (List Problem) :=
  let checked := f.rows.map fun c => c.validate catalog
  let problems := checked.flatMap Noted.value
  ⟨problems, checked.flatMap Noted.notes ++ problemNotes problems⟩

end Filter
end RecordFilter
