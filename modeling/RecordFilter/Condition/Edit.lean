import RecordFilter.Condition
import RecordFilter.Journal
import RecordFilter.Operator.Offered

/-!
# Editing a row

Choosing a field or an operator gives a row the values that fit; values are only accepted if the
operator takes so many.

* `Condition.withField`, `Condition.withOperator` — choose a field or an operator.
* `Condition.withValue`, `Condition.withRange`, `Condition.withRelative` — set the values.
-/

set_option autoImplicit false

namespace RecordFilter
namespace Condition

/-- Chooses a field, with the default operator of its kind and no values yet. -/
def withField (c : Condition) (field : Field) : Condition :=
  { c with
    field := field.path
    operator := .known field.kind.defaultVerb
    argument := .initial field.kind.defaultVerb.arity }

/-- Chooses an operator; the values stay if there are as many as it takes. -/
def withOperator (c : Condition) (operator : Operator) : Condition :=
  { c with
    operator := operator
    argument :=
      if c.argument.arity = operator.arity then c.argument else .initial operator.arity }

/-- What is said of values that do not fit the operator. -/
def ignoredText (c : Condition) (arity : Arity) : String :=
  "Ignoring " ++ arity.name ++ " value for condition '" ++ c.id ++ "': operator '" ++
    c.operator.key ++ "' takes " ++ c.operator.arity.name

/-- Sets the values, if the operator takes so many of them. -/
def withArgument (c : Condition) (argument : Argument) : Noted Condition :=
  if c.operator.arity = argument.arity then ⟨{ c with argument := argument }, []⟩
  else .debug (c.ignoredText argument.arity) c

/-- Sets a single value. -/
def withValue (c : Condition) (value : Literal) : Noted Condition :=
  c.withArgument (.single value)

/-- Sets the two ends of a range. -/
def withRange (c : Condition) (lower upper : Option Literal) : Noted Condition :=
  c.withArgument (.range lower upper)

/-- Sets the key of a relative period. -/
def withRelative (c : Condition) (key : String) : Noted Condition :=
  c.withArgument (.relative key)

/-- Gives a row another id. -/
def withId (c : Condition) (id : String) : Condition := { c with id := id }

end Condition
end RecordFilter
