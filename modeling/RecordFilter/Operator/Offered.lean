import RecordFilter.Field
import RecordFilter.Operator

/-!
# The operators of a kind of fields

* `FieldKind.verbs` — the operators that are offered for a field, the default first.
* `FieldKind.supports` — the operators that a condition on such a field may have: the offered ones,
  relative periods for dates, and the two flags for booleans.
-/

set_option autoImplicit false

namespace RecordFilter
namespace FieldKind

/-- The verb that a field has when it is chosen. -/
def defaultVerb (kind : FieldKind) : Verb :=
  match kind.basis with
  | number | boolean | select => .equals
  | date => .dateIs
  | text | email | phone | url | id | image | object => .contains

/-- The verbs offered beside the default one. -/
def otherVerbs (kind : FieldKind) : List Verb :=
  match kind.basis with
  | number =>
    [.notEquals, .greaterThan, .greaterThanOrEqual, .lessThan, .lessThanOrEqual, .between,
      .notBetween, .isEmpty, .isNotEmpty]
  | date =>
    [.dateIsNot, .dateBefore, .dateAfter, .dateBetween, .dateThisWeek, .dateThisMonth,
      .dateThisYear, .isEmpty, .isNotEmpty]
  | boolean => [.notEquals]
  | select => [.notEquals, .isIn, .isNotIn, .isEmpty, .isNotEmpty]
  | text | email | phone | url | id | image | object =>
    [.notContains, .startsWith, .endsWith, .equals, .notEquals, .isEmpty, .isNotEmpty]

/-- The verbs that are offered for a field of this kind, the default first. -/
def verbs (kind : FieldKind) : List Verb := kind.defaultVerb :: kind.otherVerbs

/-- Whether a stored condition on such a field may have a verb that is not offered. -/
def alsoAccepts (kind : FieldKind) (verb : Verb) : Bool :=
  match kind.basis, verb with
  | date, .dateIsRelative | boolean, .isTrue | boolean, .isFalse => true
  | _, _ => false

/-- Whether a condition on a field of this kind may have this operator. -/
def supports (kind : FieldKind) : Operator → Bool
  | .known verb => kind.verbs.contains verb || kind.alsoAccepts verb
  | .unknown _ => false

end FieldKind
end RecordFilter
