import Mathlib.Data.List.Nodup
import Mathlib.Data.List.Perm.Basic
import RecordFilter.Filter.Edit

/-!
# The groups of a tree, in order

The edits of a filter walk down its tree.  What they do is said here about two lists that show the
tree in order: its groups, each without the groups in it, and its rows.

* `Group.nodes` — a group and the groups below it, the group first; `Group.subgroups` are the same
  groups with what is in them.
* `Group.Exchanged` — a list of groups with one group exchanged for another, wherever it stands.
* `Group.Without` — a list of groups with one group cut out, wherever it stands.
* `Group.rowsOf_withoutRowIn` — removing rows leaves out these rows, and some groups.
* `Group.without_of_dropGroupIn?` — removing a group cuts it out, if no id occurs twice.
-/

set_option autoImplicit false

namespace RecordFilter
namespace Group

/-! ## Nodes -/

mutual

/-- A group and the groups below it in order, each without the groups in it. -/
def nodes : Group → List Group
  | ⟨id, connective, conditions, groups⟩ => ⟨id, connective, conditions, []⟩ :: nodesOf groups

/-- The nodes of these groups. -/
def nodesOf : List Group → List Group
  | [] => []
  | g :: rest => nodes g ++ nodesOf rest

end

/-- The ids of these groups and of all groups below them. -/
def idsOf (groups : List Group) : List String := (nodesOf groups).map fun g => g.id

/-- The ids of all rows of these groups. -/
def rowIdsOf (groups : List Group) : List String := (rowsOf groups).map Condition.id

theorem nodesOf_append (groups others : List Group) :
    nodesOf (groups ++ others) = nodesOf groups ++ nodesOf others := by
  induction groups with
  | nil => rfl
  | cons g rest ih => rw [List.cons_append, nodesOf, nodesOf, ih, List.append_assoc]

theorem rowsOf_append (groups others : List Group) :
    rowsOf (groups ++ others) = rowsOf groups ++ rowsOf others := by
  induction groups with
  | nil => rfl
  | cons g rest ih => rw [List.cons_append, rowsOf, rowsOf, ih, List.append_assoc]

theorem rowsOf_eq_flatMap_rows (groups : List Group) : rowsOf groups = groups.flatMap rows := by
  induction groups with
  | nil => rfl
  | cons g rest ih => rw [rowsOf, ih, List.flatMap_cons]

mutual

/-- The rows of a tree are the rows of its nodes. -/
theorem rows_eq_flatMap : ∀ g : Group, g.rows = g.nodes.flatMap Group.conditions
  | ⟨_, _, conditions, groups⟩ => by
    rw [rows, nodes, List.flatMap_cons, rowsOf_eq_flatMap groups]

theorem rowsOf_eq_flatMap : ∀ groups : List Group,
    rowsOf groups = (nodesOf groups).flatMap Group.conditions
  | [] => rfl
  | g :: rest => by
    rw [rowsOf, nodesOf, List.flatMap_append, rows_eq_flatMap g, rowsOf_eq_flatMap rest]

end

/-! ## Groups at any depth -/

mutual

/-- A group and the groups below it in order, each with all that is in it. -/
def subgroups : Group → List Group
  | ⟨id, connective, conditions, groups⟩ => ⟨id, connective, conditions, groups⟩ :: subgroupsOf groups

/-- These groups and the groups below them. -/
def subgroupsOf : List Group → List Group
  | [] => []
  | g :: rest => subgroups g ++ subgroupsOf rest

end

theorem subgroupsOf_append (groups others : List Group) :
    subgroupsOf (groups ++ others) = subgroupsOf groups ++ subgroupsOf others := by
  induction groups with
  | nil => rfl
  | cons g rest ih => rw [List.cons_append, subgroupsOf, subgroupsOf, ih, List.append_assoc]

theorem subgroups_eq (g : Group) : g.subgroups = g :: subgroupsOf g.groups := by
  obtain ⟨id, connective, conditions, groups⟩ := g
  rw [subgroups]

/-- **What is left of a tree is what is left of its groups**, in the same order and at every depth,
if a group that is left keeps what is left of its groups, and nothing is left below a group that
goes. -/
theorem subgroupsOf_filterMap {left? : Group → Option Group}
    (hsome : ∀ g left, left? g = some left → left.groups = g.groups.filterMap left?)
    (hnone : ∀ g, left? g = none → g.groups.filterMap left? = []) : ∀ groups : List Group,
    subgroupsOf (groups.filterMap left?) = (subgroupsOf groups).filterMap left?
  | [] => rfl
  | ⟨own, connective, conditions, groups⟩ :: rest => by
    -- the groups below the first one, and the groups after it
    have hbelow := subgroupsOf_filterMap hsome hnone groups
    have hrest := subgroupsOf_filterMap hsome hnone rest
    rw [subgroupsOf, subgroups, List.cons_append, List.filterMap_cons, List.filterMap_cons,
      List.filterMap_append, ← hbelow, ← hrest]
    cases hleft : left? ⟨own, connective, conditions, groups⟩ with
    | none =>
      have hnothing : groups.filterMap left? = [] := hnone _ hleft
      rw [hnothing]
      rfl
    | some left =>
      have hgroups : left.groups = groups.filterMap left? := hsome _ _ hleft
      dsimp only
      rw [subgroupsOf, subgroups_eq, hgroups, List.cons_append]

mutual

theorem map_id_subgroups : ∀ g : Group,
    (g.subgroups.map fun h => h.id) = g.nodes.map fun h => h.id
  | ⟨own, _, _, groups⟩ => congrArg (own :: ·) (map_id_subgroupsOf groups)

theorem map_id_subgroupsOf : ∀ groups : List Group,
    ((subgroupsOf groups).map fun h => h.id) = idsOf groups
  | [] => rfl
  | g :: rest => by
    simp only [subgroupsOf, List.map_append, map_id_subgroups g, map_id_subgroupsOf rest, idsOf,
      nodesOf]

end

/-! ## Exchanging a group -/

/-- Whether the second list of groups is the first one with one group exchanged for another, either
among these groups or below one of them.  All else stands as it did. -/
inductive Exchanged (g new : Group) : List Group → List Group → Prop
  | among (before after : List Group) :
      Exchanged g new (before ++ g :: after) (before ++ new :: after)
  | inside {groups left : List Group} (before after : List Group) (id : String)
      (connective : Connective) (conditions : List Condition) (h : Exchanged g new groups left) :
      Exchanged g new (before ++ ⟨id, connective, conditions, groups⟩ :: after)
        (before ++ ⟨id, connective, conditions, left⟩ :: after)

namespace Exchanged

variable {g new : Group} {groups left : List Group}

theorem cons (h : Exchanged g new groups left) (first : Group) :
    Exchanged g new (first :: groups) (first :: left) := by
  cases h with
  | among before after => exact among (first :: before) after
  | inside before after id connective conditions h =>
    exact inside (first :: before) after id connective conditions h

/-- What is exchanged is there. -/
theorem mem_subgroupsOf (h : Exchanged g new groups left) : g ∈ subgroupsOf groups := by
  induction h with
  | among before after =>
    obtain ⟨id, connective, conditions, groups⟩ := g
    simp [subgroupsOf_append, subgroupsOf, subgroups]
  | inside before after id connective conditions _ ih =>
    simp [subgroupsOf_append, subgroupsOf, subgroups, ih]

/-- **The nodes of what is exchanged are a stretch of the nodes**, and only this stretch changes. -/
theorem exists_nodesOf (h : Exchanged g new groups left) :
    ∃ before after, nodesOf groups = before ++ g.nodes ++ after ∧
      nodesOf left = before ++ new.nodes ++ after := by
  induction h with
  | among before after =>
    refine ⟨nodesOf before, nodesOf after, ?_, ?_⟩
    · rw [nodesOf_append, nodesOf, List.append_assoc]
    · rw [nodesOf_append, nodesOf, List.append_assoc]
  | inside before after id connective conditions _ ih =>
    obtain ⟨first, last, hgroups, hleft⟩ := ih
    refine ⟨nodesOf before ++ ⟨id, connective, conditions, []⟩ :: first, last ++ nodesOf after,
      ?_, ?_⟩
    · simp only [nodesOf_append, nodesOf, nodes, hgroups, List.append_assoc, List.cons_append]
    · simp only [nodesOf_append, nodesOf, nodes, hleft, List.append_assoc, List.cons_append]

/-- The same for the rows. -/
theorem exists_rowsOf (h : Exchanged g new groups left) :
    ∃ before after, rowsOf groups = before ++ g.rows ++ after ∧
      rowsOf left = before ++ new.rows ++ after := by
  obtain ⟨before, after, hgroups, hleft⟩ := h.exists_nodesOf
  refine ⟨before.flatMap Group.conditions, after.flatMap Group.conditions, ?_, ?_⟩
  · rw [rowsOf_eq_flatMap, hgroups, List.flatMap_append, List.flatMap_append, ← rows_eq_flatMap]
  · rw [rowsOf_eq_flatMap, hleft, List.flatMap_append, List.flatMap_append, ← rows_eq_flatMap]

end Exchanged

variable {id : String}

/-! ## Removing rows -/

mutual

theorem holdsRow_eq_any : ∀ g : Group, g.holdsRow id = g.rows.any fun c => c.id == id
  | ⟨_, _, conditions, groups⟩ => by
    rw [holdsRow, rows, List.any_append, anyHoldsRow_eq_any groups]

theorem anyHoldsRow_eq_any : ∀ groups : List Group,
    anyHoldsRow id groups = (rowsOf groups).any fun c => c.id == id
  | [] => rfl
  | g :: rest => by
    rw [anyHoldsRow, rowsOf, List.any_append, holdsRow_eq_any g, anyHoldsRow_eq_any rest]

end

theorem filter_rows_of_not_holdsRow {g : Group} (h : ¬ g.holdsRow id = true) :
    (g.rows.filter fun c => c.id != id) = g.rows := by
  refine List.filter_eq_self.2 fun c hc => bne_iff_ne.2 fun hid => h ?_
  rw [holdsRow_eq_any, List.any_eq_true]
  exact ⟨c, hc, beq_iff_eq.2 hid⟩

theorem rows_of_isEmpty {g : Group} (h : g.isEmpty = true) : g.rows = [] := by
  obtain ⟨own, connective, conditions, groups⟩ := g
  rw [isEmpty, Bool.and_eq_true, List.isEmpty_iff, List.isEmpty_iff] at h
  obtain ⟨rfl, rfl⟩ := h
  rfl

mutual

theorem rows_withoutRow : ∀ g : Group,
    (g.withoutRow id).rows = g.rows.filter fun c => c.id != id
  | ⟨_, _, conditions, groups⟩ => by
    rw [withoutRow, rows, rows, List.filter_append, rowsOf_withoutRowIn groups]

/-- **Removing the rows with an id leaves out these rows and no others.** -/
theorem rowsOf_withoutRowIn : ∀ groups : List Group,
    rowsOf (withoutRowIn id groups) = (rowsOf groups).filter fun c => c.id != id
  | [] => rfl
  | g :: rest => by
    have hrest := rowsOf_withoutRowIn rest
    rw [rowsOf, List.filter_append, ← hrest, withoutRowIn]
    by_cases hholds : g.holdsRow id = true
    · rw [if_pos hholds, ← rows_withoutRow g]
      by_cases hempty : (g.withoutRow id).isEmpty = true
      · rw [if_pos hempty, rows_of_isEmpty hempty, List.nil_append]
      · rw [if_neg hempty, rowsOf]
    · rw [if_neg hholds, rowsOf, filter_rows_of_not_holdsRow hholds]

end

mutual

theorem map_id_nodes_withoutRow : ∀ g : Group,
    ((g.withoutRow id).nodes.map fun h => h.id).Sublist (g.nodes.map fun h => h.id)
  | ⟨own, _, _, groups⟩ => (idsOf_withoutRowIn groups).cons_cons own

/-- Removing rows may remove groups, and adds none. -/
theorem idsOf_withoutRowIn : ∀ groups : List Group,
    (idsOf (withoutRowIn id groups)).Sublist (idsOf groups)
  | [] => List.Sublist.refl []
  | g :: rest => by
    have hrest := idsOf_withoutRowIn rest
    have hg := map_id_nodes_withoutRow g
    rw [withoutRowIn]
    simp only [idsOf, nodesOf, List.map_append] at hrest ⊢
    by_cases hholds : g.holdsRow id = true
    · rw [if_pos hholds]
      by_cases hempty : (g.withoutRow id).isEmpty = true
      · rw [if_pos hempty]
        exact hrest.trans (List.sublist_append_right _ _)
      · rw [if_neg hempty, nodesOf, List.map_append]
        exact hg.append hrest
    · rw [if_neg hholds, nodesOf, List.map_append]
      exact hrest.append_left _

end

/-! ## Removing a group -/

/-- Whether the second list of groups is the first one with one group cut out, either from among
these groups or from below one of them.  All else stands as it did. -/
inductive Without (g : Group) : List Group → List Group → Prop
  | among (before after : List Group) : Without g (before ++ g :: after) (before ++ after)
  | inside {groups left : List Group} (before after : List Group) (id : String)
      (connective : Connective) (conditions : List Condition) (h : Without g groups left) :
      Without g (before ++ ⟨id, connective, conditions, groups⟩ :: after)
        (before ++ ⟨id, connective, conditions, left⟩ :: after)

namespace Without

variable {g : Group} {groups left : List Group}

theorem cons (h : Without g groups left) (first : Group) :
    Without g (first :: groups) (first :: left) := by
  cases h with
  | among before after => exact among (first :: before) after
  | inside before after id connective conditions h =>
    exact inside (first :: before) after id connective conditions h

/-- The nodes of what is cut out are a stretch of the nodes, and the others stay in their order. -/
theorem exists_nodesOf (h : Without g groups left) :
    ∃ before after, nodesOf groups = before ++ g.nodes ++ after ∧
      nodesOf left = before ++ after := by
  induction h with
  | among before after =>
    refine ⟨nodesOf before, nodesOf after, ?_, nodesOf_append before after⟩
    rw [nodesOf_append, nodesOf, List.append_assoc]
  | inside before after id connective conditions _ ih =>
    obtain ⟨first, last, hgroups, hleft⟩ := ih
    refine ⟨nodesOf before ++ ⟨id, connective, conditions, []⟩ :: first, last ++ nodesOf after,
      ?_, ?_⟩
    · simp only [nodesOf_append, nodesOf, nodes, hgroups, List.append_assoc, List.cons_append]
    · simp only [nodesOf_append, nodesOf, nodes, hleft, List.append_assoc, List.cons_append]

/-- The same for the rows. -/
theorem exists_rowsOf (h : Without g groups left) :
    ∃ before after, rowsOf groups = before ++ g.rows ++ after ∧ rowsOf left = before ++ after := by
  obtain ⟨before, after, hgroups, hleft⟩ := h.exists_nodesOf
  refine ⟨before.flatMap Group.conditions, after.flatMap Group.conditions, ?_, ?_⟩
  · rw [rowsOf_eq_flatMap, hgroups, List.flatMap_append, List.flatMap_append, ← rows_eq_flatMap]
  · rw [rowsOf_eq_flatMap, hleft, List.flatMap_append]

end Without

/-- Where no two groups have the same id, leaving out those with an id leaves out one group. -/
theorem exists_filter_ne_of_nodup {groups : List Group}
    (hnodup : (groups.map fun g => g.id).Nodup) (h : (groups.any fun g => g.id == id) = true) :
    ∃ before g after, g.id = id ∧ groups = before ++ g :: after ∧
      (groups.filter fun g => g.id != id) = before ++ after := by
  obtain ⟨g, hg, hid⟩ := List.any_eq_true.1 h
  have hgid : g.id = id := beq_iff_eq.1 hid
  obtain ⟨before, after, rfl⟩ := List.append_of_mem hg
  rw [List.map_append, List.map_cons, List.perm_middle.nodup_iff, List.nodup_cons, hgid,
    ← List.map_append] at hnodup
  have hothers : ∀ other ∈ before ++ after, (other.id != id) = true := by
    intro other hother
    refine bne_iff_ne.2 ?_
    rintro rfl
    exact hnodup.1 (List.mem_map_of_mem hother)
  refine ⟨before, g, after, hgid, rfl, ?_⟩
  rw [List.filter_append, List.filter_cons_of_neg (by simp [hgid]), ← List.filter_append,
    List.filter_eq_self.2 hothers]

theorem map_id_sublist_idsOf (groups : List Group) :
    (groups.map fun g => g.id).Sublist (idsOf groups) := by
  induction groups with
  | nil => exact List.Sublist.refl []
  | cons g rest ih =>
    obtain ⟨own, connective, conditions, groups⟩ := g
    simp only [idsOf, nodesOf, nodes, List.map_cons, List.map_append, List.cons_append]
    exact (ih.trans (List.sublist_append_right _ _)).cons_cons own

theorem mem_idsOf_iff {groups : List Group} :
    id ∈ idsOf groups ↔ ∃ g ∈ groups, g.id = id ∨ id ∈ idsOf g.groups := by
  induction groups with
  | nil => simp [idsOf, nodesOf]
  | cons g rest ih =>
    obtain ⟨own, connective, conditions, groups⟩ := g
    have hsplit : id ∈ idsOf (⟨own, connective, conditions, groups⟩ :: rest) ↔
        (own = id ∨ id ∈ idsOf groups) ∨ id ∈ idsOf rest := by
      simp only [idsOf, nodesOf, nodes, List.map_append, List.map_cons, List.mem_append,
        List.mem_cons, eq_comm]
    simp only [hsplit, ih, List.mem_cons, exists_eq_or_imp]

/-- Below a group, groups are removed as they are at the top. -/
theorem dropGroup?_eq_map (g : Group) :
    g.dropGroup? id = (dropGroupIn? id g.groups).map fun groups => { g with groups := groups } := by
  obtain ⟨own, connective, conditions, groups⟩ := g
  rw [dropGroup?, dropGroupIn?]
  by_cases hany : (groups.any fun g => g.id == id) = true
  · rw [if_pos hany, if_pos hany, Option.map_some]
  · rw [if_neg hany, if_neg hany]

mutual

/-- **A group can be removed exactly if it is there.** -/
theorem dropGroupIn?_eq_none_iff {groups : List Group} :
    dropGroupIn? id groups = none ↔ id ∉ idsOf groups := by
  rw [dropGroupIn?, mem_idsOf_iff]
  by_cases hany : (groups.any fun g => g.id == id) = true
  · obtain ⟨g, hg, hid⟩ := List.any_eq_true.1 hany
    rw [if_pos hany]
    exact iff_of_false (Option.some_ne_none _) fun hnone =>
      hnone ⟨g, hg, Or.inl (beq_iff_eq.1 hid)⟩
  · have hown : ∀ g ∈ groups, g.id ≠ id :=
      fun g hg hid => hany (List.any_eq_true.2 ⟨g, hg, beq_iff_eq.2 hid⟩)
    rw [if_neg hany, dropGroupBelow?_eq_none_iff]
    constructor
    · rintro hnone ⟨g, hg, hid | hbelow⟩
      · exact hown g hg hid
      · exact hnone g hg hbelow
    · exact fun hnone g hg hbelow => hnone ⟨g, hg, Or.inr hbelow⟩
termination_by (sizeOf groups, 1)

theorem dropGroupBelow?_eq_none_iff {groups : List Group} :
    dropGroupBelow? id groups = none ↔ ∀ g ∈ groups, id ∉ idsOf g.groups := by
  cases groups with
  | nil => exact iff_of_true rfl (List.forall_mem_nil _)
  | cons g rest =>
    obtain ⟨own, connective, conditions, groups⟩ := g
    rw [dropGroupBelow?, dropGroup?_eq_map, List.forall_mem_cons, ← dropGroupIn?_eq_none_iff,
      ← dropGroupBelow?_eq_none_iff]
    cases dropGroupIn? id groups with
    | some left => exact iff_of_false (Option.some_ne_none _) fun hnone =>
        Option.some_ne_none _ hnone.1
    | none => rw [Option.map_none]; simp
termination_by (sizeOf groups, 0)

end

mutual

/-- **Removing a group cuts out this group**, where no two groups have the same id. -/
theorem without_of_dropGroupIn? {groups left : List Group} (hnodup : (idsOf groups).Nodup)
    (h : dropGroupIn? id groups = some left) : ∃ cut, cut.id = id ∧ Without cut groups left := by
  rw [dropGroupIn?] at h
  by_cases hany : (groups.any fun g => g.id == id) = true
  · rw [if_pos hany] at h
    obtain rfl := Option.some.inj h
    obtain ⟨before, cut, after, hid, hgroups, hleft⟩ :=
      exists_filter_ne_of_nodup (hnodup.sublist (map_id_sublist_idsOf groups)) hany
    refine ⟨cut, hid, ?_⟩
    rw [hleft, hgroups]
    exact .among before after
  · rw [if_neg hany] at h
    exact without_of_dropGroupBelow? hnodup h
termination_by (sizeOf groups, 1)

theorem without_of_dropGroupBelow? {groups left : List Group} (hnodup : (idsOf groups).Nodup)
    (h : dropGroupBelow? id groups = some left) :
    ∃ cut, cut.id = id ∧ Without cut groups left := by
  match groups with
  | [] => cases h
  | ⟨own, connective, conditions, groups⟩ :: rest =>
    simp only [idsOf, nodesOf, nodes, List.map_append, List.map_cons] at hnodup
    obtain ⟨hg, hrest, -⟩ := List.nodup_append.1 hnodup
    rw [dropGroupBelow?, dropGroup?_eq_map] at h
    cases hbelow : dropGroupIn? id groups with
    | some below =>
      rw [hbelow] at h
      obtain rfl := Option.some.inj h
      obtain ⟨cut, hid, hwithout⟩ := without_of_dropGroupIn? (List.nodup_cons.1 hg).2 hbelow
      exact ⟨cut, hid, .inside [] rest own connective conditions hwithout⟩
    | none =>
      rw [hbelow] at h
      obtain ⟨others, hothers, rfl⟩ := Option.map_eq_some_iff.1 h
      obtain ⟨cut, hid, hwithout⟩ := without_of_dropGroupBelow? hrest hothers
      exact ⟨cut, hid, hwithout.cons _⟩
termination_by (sizeOf groups, 0)

end

end Group
end RecordFilter
