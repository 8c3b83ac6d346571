import RecordFilter.Condition

/-!
# Filters

A filter is a tree: groups of conditions and of further groups.  A group asks for all of its parts
or for any of them, and so does the filter with its top-level groups.

* `Connective` — all or any.
* `Group`, `Filter` — the tree.
* `Group.rows`, `Filter.rows` — all conditions in order, those of a group before those of its
  groups.
* `Filter.isActive` — whether some row has a field.
* `Filter.pruned?` — the tree without blank rows and empty groups.
* `Filter.ofRows` — the tree of a plain list of rows.
-/

set_option autoImplicit false

namespace RecordFilter

/-! ## Connectives -/

/-- Whether all parts of a group have to hold or any of them. -/
inductive Connective where
  | all
  | any
  deriving DecidableEq

namespace Connective

/-- The key under which a connective is stored. -/
def key : Connective → String
  | all => "and"
  | any => "or"

/-- The connective that a key names; anything but `or`, in any case, means all. -/
def ofKey (key : String) : Connective :=
  if Text.sameIgnoringCase (Text.trim key) "or" then any else all

/-- The other connective. -/
def toggled : Connective → Connective
  | all => any
  | any => all

end Connective

/-! ## The tree -/

/-- A group of conditions and of further groups. -/
structure Group where
  id : String
  connective : Connective
  conditions : List Condition
  groups : List Group

/-- A filter: its top-level groups and how they are combined. -/
structure Filter where
  groups : List Group
  connective : Connective

/-! ## Groups -/

namespace Group

/-- Whether a group has neither conditions nor groups. -/
def isEmpty (g : Group) : Bool := g.conditions.isEmpty && g.groups.isEmpty

mutual

/-- Whether some row of a group or below it has a field. -/
def isActive : Group → Bool
  | ⟨_, _, conditions, groups⟩ => (conditions.any fun c => !c.isBlank) || anyActive groups

/-- Whether some row of these groups has a field. -/
def anyActive : List Group → Bool
  | [] => false
  | g :: rest => isActive g || anyActive rest

end

mutual

/-- The rows of a group, its own before those of its groups. -/
def rows : Group → List Condition
  | ⟨_, _, conditions, groups⟩ => conditions ++ rowsOf groups

/-- The rows of these groups in order. -/
def rowsOf : List Group → List Condition
  | [] => []
  | g :: rest => rows g ++ rowsOf rest

end

mutual

/-- A group without its blank rows and without the groups that this leaves empty; `none` if nothing
remains. -/
def pruned? : Group → Option Group
  | ⟨id, connective, conditions, groups⟩ =>
    let kept := conditions.filter fun c => !c.isBlank
    let below := prunedOf groups
    if kept.isEmpty && below.isEmpty then none else some ⟨id, connective, kept, below⟩

/-- What remains of these groups. -/
def prunedOf : List Group → List Group
  | [] => []
  | g :: rest =>
    match pruned? g with
    | some kept => kept :: prunedOf rest
    | none => prunedOf rest

end

end Group

/-! ## Filters -/

/-- The ids of what is made anew: a group, and a blank row in it. -/
structure FreshIds where
  group : String
  row : String

namespace Filter

/-- A filter without groups. -/
def empty : Filter := ⟨[], .all⟩

/-- All rows of a filter, depth first, a group's own rows first. -/
def rows (f : Filter) : List Condition := Group.rowsOf f.groups

/-- Whether some row of a filter has a field. -/
def isActive (f : Filter) : Bool := Group.anyActive f.groups

/-- A filter as it should be kept: without blank rows and empty groups; `none` if nothing remains.
-/
def pruned? (f : Filter) : Option Filter :=
  let kept := Group.prunedOf f.groups
  if kept.isEmpty then none else some ⟨kept, f.connective⟩

/-- The filter that asks for all of these rows.  For an empty list it has one blank row, so that an
editor has something to show. -/
def ofRows (fresh : FreshIds) (rows : List Condition) : Filter :=
  let shown := if rows.isEmpty then [.blank fresh.row] else rows
  ⟨[⟨fresh.group, .all, shown, []⟩], .all⟩

end Filter
end RecordFilter
