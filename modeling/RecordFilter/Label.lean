import RecordFilter.Catalog
import RecordFilter.Filter
import RecordFilter.Period

/-!
# Labels of conditions

A row is shown in one line, such as `Age between 30 and 40`.

* `Condition.label?` — the line for a row; a row without a field has none.
* `Filter.labels` — the lines for the rows of a filter.
-/

set_option autoImplicit false

namespace RecordFilter

/-- How a value is shown: a question mark stands for one that is missing or blank. -/
def Literal.shown : Option Literal → String
  | some value => if value.isBlank then "?" else value.display
  | none => "?"

/-- How the values of a row are shown, with a space before each of them. -/
def Argument.shown : Argument → String
  | nothing => ""
  | single value => " " ++ Literal.shown (some value)
  | range lower upper => " " ++ Literal.shown lower ++ " and " ++ Literal.shown upper
  | relative key => " " ++ ((Period.ofKey? key).map Period.label).getD "?"

/-- The line for a row: the header of its field, the words for its operator and its values. -/
def Condition.label? (c : Condition) (catalog : Catalog) : Option String :=
  let header := catalog.headerOf (Text.trim c.field)
  if c.isBlank then none
  else if c.operator.isBlank then some header
  else some (header ++ " " ++ c.operator.label ++ c.argument.shown)

/-- The lines for all rows that have a field. -/
def Filter.labels (f : Filter) (catalog : Catalog) : List String :=
  f.rows.filterMap fun c => c.label? catalog

end RecordFilter
