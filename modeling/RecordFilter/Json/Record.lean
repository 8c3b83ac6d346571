import RecordFilter.Json.Value

/-!
# Records with named members

Stored conditions, groups and options are records with a fixed list of members.

* `Json.record?` — the members of a record.  They are given by an object, in which each known name
  is used at most once and other names are ignored, or by an array of the members in their order,
  of which the last ones may be missing.
* `Json.textMember?` — a member that is a text.
* `Json.choice?` — a choice among names.
-/

set_option autoImplicit false

namespace RecordFilter
namespace Json

/-- How many members of an object have this name. -/
def occurrences (members : List (String × Json)) (name : String) : Nat :=
  (members.filter fun member => member.1 == name).length

/-- The members of a record whose members have these names. -/
def record? (names : List String) : Json → Option (List (String × Json))
  | .object members =>
    if names.all fun name => occurrences members name ≤ 1 then some members else none
  | .array items => if items.length ≤ names.length then some (names.zip items) else none
  | _ => none

/-- A member that has to be a text; a missing one is the default. -/
def textMember? (members : List (String × Json)) (name default : String) : Option String :=
  match members.lookup name with
  | none => some default
  | some (.string s) => some s
  | some _ => none

/-- A choice among names: the name itself, or an object with this one name and the value null. -/
def choice? : Json → Option String
  | .string name => some name
  | .object [(name, .null)] => some name
  | _ => none

end Json
end RecordFilter
