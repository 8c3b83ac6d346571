import RecordFilter.Condition.Stored
import RecordFilter.Filter

/-!
# The stored form of filters

* `Group.toJson`, `Group.ofJson?` — groups; an empty list of nested groups is left out.
* `Filter.toJson`, `Filter.ofJson?` — whole filters.
* `SavedFilter` — what a view stores: a plain list of rows, or a whole filter.
-/

set_option autoImplicit false

namespace RecordFilter
/-! ## Groups -/

namespace Group

/-- The names of the members, in their order. -/
def memberNames : List String := ["id", "logicalOperator", "conditions", "groups"]

/-- What is read of a stored group. -/
def outline : Outline :=
  .record [("id", .whole), ("logicalOperator", .whole), ("conditions", .list Condition.outline),
    ("groups", .list .nested)]

mutual

/-- The stored form of a group. -/
def toJson : Group → Json
  | ⟨id, connective, conditions, groups⟩ =>
    .object ([("id", .string id), ("logicalOperator", .string connective.key),
      ("conditions", .array (conditions.map Condition.toJson))] ++
      if groups.isEmpty then [] else [("groups", .array (toItems groups))])

/-- The stored forms of these groups. -/
def toItems : List Group → List Json
  | [] => []
  | g :: rest => toJson g :: toItems rest

end

/-- The conditions of a stored group. -/
def conditionsMember? (members : List (String × Json)) : Option (List Condition) :=
  match members.lookup "conditions" with
  | none => some []
  | some j => Condition.listOfJson? j

/-- A group from the members of its record, with the groups in it already read. -/
def ofMembers? (members : List (String × Json)) (groups : List Group) : Option Group := do
  let id ← Json.textMember? members "id" ""
  let key ← Json.textMember? members "logicalOperator" ""
  let conditions ← conditionsMember? members
  return ⟨id, .ofKey key, conditions, groups⟩

mutual

/-- Reads a stored group; every member may be missing. -/
def ofJson? : Json → Option Group
  | .object members =>
    match (Json.object members).record? memberNames, groupsMember? members with
    | some members, some groups => ofMembers? members groups
    | _, _ => none
  | .array items =>
    match (Json.array items).record? memberNames, fourthItem? items with
    | some members, some groups => ofMembers? members groups
    | _, _ => none
  | _ => none

/-- The groups in a group that is stored as an object. -/
def groupsMember? : List (String × Json) → Option (List Group)
  | [] => some []
  | (name, j) :: rest => if name = "groups" then listOfJson? j else groupsMember? rest

/-- The groups in a group that is stored as an array. -/
def fourthItem? : List Json → Option (List Group)
  | [_, _, _, j] => listOfJson? j
  | _ => some []

/-- Reads a stored list of groups. -/
def listOfJson? : Json → Option (List Group)
  | .array items => ofItems? items
  | _ => none

/-- Reads the items of a stored list of groups. -/
def ofItems? : List Json → Option (List Group)
  | [] => some []
  | j :: rest =>
    match ofJson? j, ofItems? rest with
    | some g, some groups => some (g :: groups)
    | _, _ => none

end

end Group

/-! ## Filters -/

namespace Filter

/-- The names of the members, in their order. -/
def memberNames : List String := ["groups", "globalLogicalOperator"]

/-- What is read of a stored filter. -/
def outline : Outline :=
  .record [("groups", .list Group.outline), ("globalLogicalOperator", .whole)]

/-- The stored form of a filter. -/
def toJson (f : Filter) : Json :=
  .object [("groups", .array (Group.toItems f.groups)),
    ("globalLogicalOperator", .string f.connective.key)]

/-- Reads a stored filter. -/
def ofJson? (j : Json) : Option Filter := do
  let members ← j.record? memberNames
  let groups ←
    match members.lookup "groups" with
    | none => some []
    | some groups => Group.listOfJson? groups
  let key ← Json.textMember? members "globalLogicalOperator" ""
  return ⟨groups, .ofKey key⟩

/-- Reads a filter from a text. -/
def ofText? (text : String) : Option Filter := (outline.ofText? text).bind ofJson?

end Filter

/-! ## Saved filters -/

/-- The filter of a stored view: a list of rows from the simple editor, or a whole filter. -/
inductive SavedFilter where
  | simple (rows : List Condition)
  | advanced (filter : Filter)

namespace SavedFilter

/-- All rows, in their order. -/
def rows : SavedFilter → List Condition
  | simple rows => rows
  | advanced filter => filter.rows

/-- Whether some row has a field. -/
def isActive : SavedFilter → Bool
  | simple rows => rows.any fun c => !c.isBlank
  | advanced filter => filter.isActive

/-- The filter that a view has; a list of rows asks for all of them. -/
def toFilter (fresh : FreshIds) : SavedFilter → Filter
  | simple rows => .ofRows fresh rows
  | advanced filter => filter

/-- The stored form. -/
def toJson : SavedFilter → Json
  | simple rows => .array (rows.map Condition.toJson)
  | advanced filter => filter.toJson

/-- Reads a stored list of rows or, where that fails, a stored filter. -/
def ofJson? (j : Json) : Option SavedFilter :=
  match Condition.listOfJson? j with
  | some rows => some (simple rows)
  | none => (Filter.ofJson? j).map advanced

/-- Reads the filter of a view from a text.  All of the text has to be readable, since what is asked
for depends on which of the two forms it has. -/
def ofText? (text : String) : Option SavedFilter := (Json.ofText? text).bind ofJson?

end SavedFilter
end RecordFilter
