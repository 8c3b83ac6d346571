import RecordFilter.Literal
import RecordFilter.Operator

/-!
# Conditions

A condition is a row of a filter: a field, an operator, and the values that the operator takes.

* `Argument` — the values of a condition; `Argument.initial` is what a newly chosen operator has.
* `Condition` — a row.  A row without a field constrains nothing.
-/

set_option autoImplicit false

namespace RecordFilter

/-- The values of a condition.  While a row is being edited an end of a range may be missing. -/
inductive Argument where
  | nothing
  | single (value : Literal)
  | range (lower upper : Option Literal)
  | relative (key : String)

namespace Argument

/-- The values that a newly chosen operator of this arity has. -/
def initial : Arity → Argument
  | .nothing => nothing
  | .single => single (.text "")
  | .range => range none none
  | .relative => relative ""

/-- How many values these are. -/
def arity : Argument → Arity
  | nothing => .nothing
  | single _ => .single
  | range _ _ => .range
  | relative _ => .relative

/-- The value, if there is just one. -/
def single? : Argument → Option Literal
  | single value => some value
  | _ => none

/-- Both ends of a range, if both are there. -/
def ends? : Argument → Option (Literal × Literal)
  | range (some lower) (some upper) => some (lower, upper)
  | _ => none

/-- The key of a relative period. -/
def key? : Argument → Option String
  | relative key => some key
  | _ => none

end Argument

/-- A row of a filter. -/
structure Condition where
  id : String
  field : String
  operator : Operator
  argument : Argument

namespace Condition

/-- An empty row. -/
def blank (id : String) : Condition := ⟨id, "", .blank, .nothing⟩

/-- Whether a row has no field. -/
def isBlank (c : Condition) : Bool := Text.isBlank c.field

end Condition
end RecordFilter
