import RecordFilter.Filter
import RecordFilter.Journal

/-!
# Editing a filter

Groups and rows are addressed by their ids.  An edit that finds no such id leaves the filter as it
is, and a note says so.  Where an id occurs more than once, the first group or row with it is
meant, a group before what is in it; only the removal of rows applies to all of them.

* `Group.updateFirst?` — changes the first group with an id.
* `Group.replaceFirst?` — replaces the first row with an id.
* `Group.holdsRow`, `Group.withoutRow` — remove rows, together with the groups that this empties.
* `Group.dropGroup?` — removes groups.
* `Filter.addGroup` and the other edits of a filter.
-/

set_option autoImplicit false

namespace RecordFilter
namespace Group

/-! ## The first group or row with an id -/

mutual

/-- Changes the first group with this id, which may be the group itself. -/
def updateFirst? (id : String) (change : Group → Group) : Group → Option Group
  | ⟨own, connective, conditions, groups⟩ =>
    if own = id then some (change ⟨own, connective, conditions, groups⟩)
    else (updateFirstIn? id change groups).map fun groups => ⟨own, connective, conditions, groups⟩

/-- Changes the first group with this id among these groups and below them. -/
def updateFirstIn? (id : String) (change : Group → Group) : List Group → Option (List Group)
  | [] => none
  | g :: rest =>
    match updateFirst? id change g with
    | some changed => some (changed :: rest)
    | none => (updateFirstIn? id change rest).map fun rest => g :: rest

end

/-- Replaces the first of these rows that has the id of the new one. -/
def replaceRow? (new : Condition) : List Condition → Option (List Condition)
  | [] => none
  | c :: rest =>
    if c.id = new.id then some (new :: rest)
    else (replaceRow? new rest).map fun rest => c :: rest

mutual

/-- Replaces the first row that has the id of the new one, in a group or below it. -/
def replaceFirst? (new : Condition) : Group → Option Group
  | ⟨id, connective, conditions, groups⟩ =>
    match replaceRow? new conditions with
    | some conditions => some ⟨id, connective, conditions, groups⟩
    | none =>
      (replaceFirstIn? new groups).map fun groups => ⟨id, connective, conditions, groups⟩

/-- Replaces the first row that has the id of the new one, in these groups. -/
def replaceFirstIn? (new : Condition) : List Group → Option (List Group)
  | [] => none
  | g :: rest =>
    match replaceFirst? new g with
    | some changed => some (changed :: rest)
    | none => (replaceFirstIn? new rest).map fun rest => g :: rest

end

/-! ## Removing rows -/

mutual

/-- Whether a row with this id stands in a group or below it. -/
def holdsRow (id : String) : Group → Bool
  | ⟨_, _, conditions, groups⟩ => (conditions.any fun c => c.id == id) || anyHoldsRow id groups

/-- Whether a row with this id stands in one of these groups. -/
def anyHoldsRow (id : String) : List Group → Bool
  | [] => false
  | g :: rest => holdsRow id g || anyHoldsRow id rest

end

mutual

/-- A group without the rows that have this id. -/
def withoutRow (id : String) : Group → Group
  | ⟨own, connective, conditions, groups⟩ =>
    ⟨own, connective, conditions.filter fun c => c.id != id, withoutRowIn id groups⟩

/-- These groups without the rows that have this id, and without the groups that lost a row and are
now empty. -/
def withoutRowIn (id : String) : List Group → List Group
  | [] => []
  | g :: rest =>
    if holdsRow id g then
      let left := withoutRow id g
      if left.isEmpty then withoutRowIn id rest else left :: withoutRowIn id rest
    else g :: withoutRowIn id rest

end

/-! ## Removing groups -/

mutual

/-- Removes the groups with this id from below a group. -/
def dropGroup? (id : String) : Group → Option Group
  | ⟨own, connective, conditions, groups⟩ =>
    if groups.any fun g => g.id == id then
      some ⟨own, connective, conditions, groups.filter fun g => g.id != id⟩
    else (dropGroupBelow? id groups).map fun groups => ⟨own, connective, conditions, groups⟩

/-- Removes the groups with this id from below the first of these groups that has one. -/
def dropGroupBelow? (id : String) : List Group → Option (List Group)
  | [] => none
  | g :: rest =>
    match dropGroup? id g with
    | some changed => some (changed :: rest)
    | none => (dropGroupBelow? id rest).map fun rest => g :: rest

end

/-- Removes the groups with this id where they first occur: among these groups, or else from below
one of them. -/
def dropGroupIn? (id : String) (groups : List Group) : Option (List Group) :=
  if groups.any fun g => g.id == id then some (groups.filter fun g => g.id != id)
  else dropGroupBelow? id groups

end Group

/-! ## The edits of a filter -/

namespace Filter

/-- A filter with these groups, or the filter itself with a note. -/
def withGroups (f : Filter) (groups : Option (List Group)) (note : String) : Noted Filter :=
  match groups with
  | some groups => ⟨{ f with groups := groups }, []⟩
  | none => .debug note f

/-- Appends a group at the top level, or inside the group `parent`. -/
def addGroup (f : Filter) (g : Group) (parent : Option String) : Noted Filter :=
  match parent with
  | none => ⟨{ f with groups := f.groups ++ [g] }, []⟩
  | some parent =>
    f.withGroups
      (Group.updateFirstIn? parent (fun p => { p with groups := p.groups ++ [g] }) f.groups)
      ("Cannot add group '" ++ g.id ++ "': no group '" ++ parent ++ "'")

/-- Removes a group with all that is in it. -/
def removeGroup (f : Filter) (id : String) : Noted Filter :=
  f.withGroups (Group.dropGroupIn? id f.groups) ("Cannot remove group '" ++ id ++ "': not found")

/-- Appends a row to a group. -/
def addCondition (f : Filter) (group : String) (c : Condition) : Noted Filter :=
  f.withGroups
    (Group.updateFirstIn? group (fun g => { g with conditions := g.conditions ++ [c] }) f.groups)
    ("Cannot add condition '" ++ c.id ++ "': no group '" ++ group ++ "'")

/-- Removes the rows with this id; a group that this empties is removed too. -/
def removeCondition (f : Filter) (id : String) : Noted Filter :=
  f.withGroups
    (if Group.anyHoldsRow id f.groups then some (Group.withoutRowIn id f.groups) else none)
    ("Cannot remove condition '" ++ id ++ "': not found")

/-- Replaces the row that has the id of the new one. -/
def updateCondition (f : Filter) (c : Condition) : Noted Filter :=
  f.withGroups (Group.replaceFirstIn? c f.groups)
    ("Cannot update condition '" ++ c.id ++ "': not found")

/-- Sets the connective of a group. -/
def setGroupOperator (f : Filter) (group : String) (connective : Connective) : Noted Filter :=
  f.withGroups
    (Group.updateFirstIn? group (fun g => { g with connective := connective }) f.groups)
    ("Cannot set operator of group '" ++ group ++ "': not found")

/-- Toggles the connective of a group. -/
def toggleGroupOperator (f : Filter) (group : String) : Noted Filter :=
  f.withGroups
    (Group.updateFirstIn? group (fun g => { g with connective := g.connective.toggled }) f.groups)
    ("Cannot toggle operator of group '" ++ group ++ "': not found")

/-- Sets the connective of the whole filter. -/
def setOperator (f : Filter) (connective : Connective) : Filter :=
  { f with connective := connective }

/-- Removes all groups and keeps the connective. -/
def clear (f : Filter) : Filter := { f with groups := [] }

end Filter
end RecordFilter
