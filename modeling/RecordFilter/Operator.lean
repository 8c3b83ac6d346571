import RecordFilter.Text.Space

/-!
# Operators

An operator says how a condition tests its field.

* `Arity` — how many values an operator takes.
* `Verb` — the operators that can be compiled, with key, label and arity.
* `Operator` — a verb, or a key that names none and is kept as it is.
* `Operator.ofKey` — the operator that a key names, white space around it ignored.
-/

set_option autoImplicit false

namespace RecordFilter

/-! ## How many values -/

/-- How many values an operator takes. -/
inductive Arity where
  | nothing
  | single
  | range
  | relative
  deriving DecidableEq

namespace Arity

/-- How an arity is named in notes. -/
def name : Arity → String
  | nothing => "None"
  | single => "Single"
  | range => "Range"
  | relative => "Relative"

/-- Whether an operator of this arity takes a value at all. -/
def takesValue : Arity → Bool
  | nothing => false
  | single | range | relative => true

/-- Whether an operator of this arity takes two ends. -/
def takesRange : Arity → Bool
  | range => true
  | nothing | single | relative => false

end Arity

/-! ## Verbs -/

/-- A known operator. -/
inductive Verb where
  | contains
  | notContains
  | startsWith
  | endsWith
  | equals
  | notEquals
  | isEmpty
  | isNotEmpty
  | greaterThan
  | greaterThanOrEqual
  | lessThan
  | lessThanOrEqual
  | between
  | notBetween
  | dateIs
  | dateIsNot
  | dateBefore
  | dateAfter
  | dateBetween
  | dateThisWeek
  | dateThisMonth
  | dateThisYear
  | dateIsRelative
  | isTrue
  | isFalse
  | isIn
  | isNotIn
  deriving DecidableEq

namespace Verb

/-- All verbs. -/
def all : List Verb :=
  [contains, notContains, startsWith, endsWith, equals, notEquals, isEmpty, isNotEmpty,
    greaterThan, greaterThanOrEqual, lessThan, lessThanOrEqual, between, notBetween, dateIs,
    dateIsNot, dateBefore, dateAfter, dateBetween, dateThisWeek, dateThisMonth, dateThisYear,
    dateIsRelative, isTrue, isFalse, isIn, isNotIn]

/-- The key under which a verb is stored. -/
def key : Verb → String
  | contains => "contains"
  | notContains => "not_contains"
  | startsWith => "starts_with"
  | endsWith => "ends_with"
  | equals => "equals"
  | notEquals => "not_equals"
  | isEmpty => "is_empty"
  | isNotEmpty => "is_not_empty"
  | greaterThan => "greater_than"
  | greaterThanOrEqual => "greater_than_or_equal"
  | lessThan => "less_than"
  | lessThanOrEqual => "less_than_or_equal"
  | between => "between"
  | notBetween => "not_between"
  | dateIs => "date_is"
  | dateIsNot => "date_is_not"
  | dateBefore => "date_before"
  | dateAfter => "date_after"
  | dateBetween => "date_between"
  | dateThisWeek => "date_this_week"
  | dateThisMonth => "date_this_month"
  | dateThisYear => "date_this_year"
  | dateIsRelative => "date_is_relative"
  | isTrue => "is_true"
  | isFalse => "is_false"
  | isIn => "in"
  | isNotIn => "not_in"

/-- The words for a verb between the header of a field and its value. -/
def label : Verb → String
  | contains => "contains"
  | notContains => "does not contain"
  | startsWith => "starts with"
  | endsWith => "ends with"
  | equals | dateIs => "is"
  | notEquals | dateIsNot => "is not"
  | isEmpty => "is empty"
  | isNotEmpty => "is not empty"
  | greaterThan => "greater than"
  | greaterThanOrEqual => "greater than or equal to"
  | lessThan => "less than"
  | lessThanOrEqual => "less than or equal to"
  | between => "between"
  | notBetween => "not between"
  | dateBefore => "is before"
  | dateAfter => "is after"
  | dateBetween => "is between"
  | dateThisWeek => "is this week"
  | dateThisMonth => "is this month"
  | dateThisYear => "is this year"
  | dateIsRelative => "is within"
  | isTrue => "is true"
  | isFalse => "is false"
  | isIn => "is any of"
  | isNotIn => "is none of"

/-- How many values a verb takes. -/
def arity : Verb → Arity
  | isEmpty | isNotEmpty | dateThisWeek | dateThisMonth | dateThisYear | isTrue
  | isFalse => .nothing
  | between | notBetween | dateBetween => .range
  | dateIsRelative => .relative
  | contains | notContains | startsWith | endsWith | equals | notEquals | greaterThan
  | greaterThanOrEqual | lessThan | lessThanOrEqual | dateIs | dateIsNot | dateBefore | dateAfter
  | isIn | isNotIn => .single

/-- The verb with exactly this key. -/
def ofKey? (key : String) : Option Verb := all.find? fun verb => verb.key == key

end Verb

/-! ## Operators -/

/-- The operator of a condition. -/
inductive Operator where
  | known (verb : Verb)
  | unknown (key : String)
  deriving DecidableEq

namespace Operator

/-- The operator of a row for which none has been chosen. -/
def blank : Operator := .unknown ""

/-- The key under which an operator is stored. -/
def key : Operator → String
  | known verb => verb.key
  | unknown key => key

/-- The words for an operator. -/
def label : Operator → String
  | known verb => verb.label
  | unknown key => key

/-- How many values an operator takes; one that is not known takes none. -/
def arity : Operator → Arity
  | known verb => verb.arity
  | unknown _ => .nothing

/-- Whether no operator has been chosen. -/
def isBlank (operator : Operator) : Bool := Text.isBlank operator.key

/-- The operator that a key names. -/
def ofKey (key : String) : Operator :=
  match Verb.ofKey? (Text.trim key) with
  | some verb => .known verb
  | none => .unknown (Text.trim key)

end Operator
end RecordFilter
