import RecordFilter.Label
import RecordFilter.Proofs.Filter.Nodes
import RecordFilter.Proofs.Query.Thinning
import RecordFilter.Validation

/-!
# The form of a filter that should be kept

Pruning leaves out blank rows, and the groups that are empty then.  What remains is in a normal form,
and it has the same rows to show and to check: neither looks at blank rows.

* `Filter.IsPruned` — no blank row and no empty group at any depth, and some group at all.
* `Group.pruned?_eq_some` — what remains of a group, in terms of its parts.
* `Group.rowsOf_prunedOf` — the rows that remain.
* `Group.prunedOf_eq_self` — where nothing is blank or empty, all remains.
* `Filter.validate_of_rows_eq`, `Filter.labels_of_rows_eq` — problems and labels come from the rows
  that are not blank.
* `Filter.isPruned_pruned?` — all of this for filters.
-/

set_option autoImplicit false

namespace RecordFilter

/-- Whether a filter has a group, all of its rows have a field, and none of its groups is empty, at
any depth. -/
structure Filter.IsPruned (f : Filter) : Prop where
  groups_ne_nil : f.groups ≠ []
  row_isBlank : ∀ c ∈ f.rows, c.isBlank = false
  group_isEmpty : ∀ g ∈ Group.subgroupsOf f.groups, g.isEmpty = false

namespace Group

/-! ## What remains of a group -/

theorem prunedOf_eq_filterMap (groups : List Group) : prunedOf groups = groups.filterMap pruned? := by
  induction groups with
  | nil => rfl
  | cons g rest ih =>
    rw [prunedOf, List.filterMap_cons, ih]
    cases g.pruned? <;> rfl

theorem pruned?_eq (g : Group) :
    g.pruned? =
      if (g.conditions.filter fun c => !c.isBlank).isEmpty && (g.groups.filterMap pruned?).isEmpty
      then none
      else some ⟨g.id, g.connective, g.conditions.filter fun c => !c.isBlank,
        g.groups.filterMap pruned?⟩ := by
  obtain ⟨id, connective, conditions, groups⟩ := g
  rw [pruned?, prunedOf_eq_filterMap]

/-- A group that remains keeps its id, its connective, its rows with a field and what remains of its
groups, and one of these it has. -/
theorem pruned?_eq_some {g left : Group} (h : g.pruned? = some left) :
    left = ⟨g.id, g.connective, g.conditions.filter fun c => !c.isBlank,
      g.groups.filterMap pruned?⟩ ∧ left.isEmpty = false := by
  rw [pruned?_eq] at h
  split at h
  case isTrue => cases h
  case isFalse hparts =>
    obtain rfl := Option.some.inj h
    exact ⟨rfl, Bool.eq_false_iff.2 hparts⟩

theorem filterMap_of_pruned?_eq_none {g : Group} (h : g.pruned? = none) :
    (g.conditions.filter fun c => !c.isBlank) = [] ∧ g.groups.filterMap pruned? = [] := by
  rw [pruned?_eq] at h
  split at h
  case isTrue hparts =>
    rw [Bool.and_eq_true, List.isEmpty_iff, List.isEmpty_iff] at hparts
    exact hparts
  case isFalse => cases h

/-- The groups that remain in a tree, at all depths and in order, are what remains of its groups. -/
theorem subgroupsOf_filterMap_pruned? (groups : List Group) :
    subgroupsOf (groups.filterMap pruned?) = (subgroupsOf groups).filterMap pruned? :=
  subgroupsOf_filterMap (fun _ _ h => (pruned?_eq_some h).1 ▸ rfl)
    (fun _ h => (filterMap_of_pruned?_eq_none h).2) groups

/-! ## The rows that remain -/

mutual

theorem rowsOf_toList_pruned? : ∀ g : Group,
    rowsOf g.pruned?.toList = g.rows.filter fun c => !c.isBlank
  | ⟨id, connective, conditions, groups⟩ => by
    rw [rows, List.filter_append, ← rowsOf_prunedOf groups, pruned?]
    by_cases hempty : ((conditions.filter fun c => !c.isBlank).isEmpty &&
        (prunedOf groups).isEmpty) = true
    · rw [if_pos hempty]
      rw [Bool.and_eq_true, List.isEmpty_iff, List.isEmpty_iff] at hempty
      rw [hempty.1, hempty.2]
      rfl
    · rw [if_neg hempty, Option.toList_some, rowsOf, rowsOf, rows, List.append_nil]

/-- **The rows that remain are those with a field**, in their order. -/
theorem rowsOf_prunedOf : ∀ groups : List Group,
    rowsOf (prunedOf groups) = (rowsOf groups).filter fun c => !c.isBlank
  | [] => rfl
  | g :: rest => by
    rw [rowsOf, List.filter_append, ← rowsOf_toList_pruned? g, ← rowsOf_prunedOf rest, prunedOf]
    cases g.pruned? with
    | none => rfl
    | some left => rw [Option.toList_some, rowsOf, rowsOf, rowsOf, List.append_nil]

end

/-! ## Where nothing is left out -/

mutual

theorem pruned?_eq_self : ∀ {g : Group}, (∀ c ∈ g.rows, c.isBlank = false) →
    (∀ h ∈ g.subgroups, h.isEmpty = false) → g.pruned? = some g
  | ⟨id, connective, conditions, groups⟩, hrows, hgroups => by
    rw [rows, List.forall_mem_append] at hrows
    rw [subgroups, List.forall_mem_cons] at hgroups
    have hconditions : (conditions.filter fun c => !c.isBlank) = conditions :=
      List.filter_eq_self.2 fun c hc => by rw [hrows.1 c hc, Bool.not_false]
    have hfull : ¬ (conditions.isEmpty && groups.isEmpty) = true :=
      Bool.eq_false_iff.1 hgroups.1
    rw [pruned?, prunedOf_eq_self hrows.2 hgroups.2, hconditions, if_neg hfull]

/-- **Where nothing is blank or empty, all remains.** -/
theorem prunedOf_eq_self : ∀ {groups : List Group}, (∀ c ∈ rowsOf groups, c.isBlank = false) →
    (∀ h ∈ subgroupsOf groups, h.isEmpty = false) → prunedOf groups = groups
  | [], _, _ => rfl
  | g :: rest, hrows, hgroups => by
    rw [rowsOf, List.forall_mem_append] at hrows
    rw [subgroupsOf, List.forall_mem_append] at hgroups
    rw [prunedOf, pruned?_eq_self hrows.1 hgroups.1, prunedOf_eq_self hrows.2 hgroups.2]

end

end Group

/-! ## What is shown and checked -/

namespace Condition

variable {c : Condition}

theorem validate_of_isBlank (h : c.isBlank = true) (catalog : Catalog) :
    c.validate catalog = ⟨[], []⟩ := by
  rw [validate, if_pos h]

theorem label?_of_isBlank (h : c.isBlank = true) (catalog : Catalog) :
    c.label? catalog = none := by
  simp only [label?, if_pos h]

/-- What rows without a field do not add to is read off the others. -/
theorem flatMap_filter_not_isBlank {α : Type} {read : Condition → List α}
    (hread : ∀ c : Condition, c.isBlank = true → read c = []) (conditions : List Condition) :
    (conditions.filter fun c => !c.isBlank).flatMap read = conditions.flatMap read := by
  induction conditions with
  | nil => rfl
  | cons c rest ih =>
    rw [List.filter_cons, List.flatMap_cons, ← ih]
    cases hc : c.isBlank with
    | true => rw [hread c hc, Bool.not_true, if_neg Bool.false_ne_true, List.nil_append]
    | false => rw [Bool.not_false, if_pos rfl, List.flatMap_cons]

end Condition

namespace Filter

variable {f left : Filter}

/-- **Problems come from the rows with a field**, and so do the notes about them. -/
theorem validate_of_rows_eq (h : left.rows = f.rows.filter fun c => !c.isBlank)
    (catalog : Catalog) : left.validate catalog = f.validate catalog := by
  simp only [validate, List.flatMap_map, h]
  rw [Condition.flatMap_filter_not_isBlank, Condition.flatMap_filter_not_isBlank]
  · intro c hc
    rw [Condition.validate_of_isBlank hc]
  · intro c hc
    rw [Condition.validate_of_isBlank hc]

/-- **Labels come from the rows with a field.** -/
theorem labels_of_rows_eq (h : left.rows = f.rows.filter fun c => !c.isBlank)
    (catalog : Catalog) : left.labels catalog = f.labels catalog := by
  rw [labels, labels, h, List.filterMap_eq_flatMap_toList, List.filterMap_eq_flatMap_toList]
  refine Condition.flatMap_filter_not_isBlank (fun c hc => ?_) f.rows
  rw [Condition.label?_of_isBlank hc, Option.toList_none]

/-! ## Filters -/

theorem isSome_pruned? (f : Filter) : f.pruned?.isSome = f.isActive := by
  have hactive : (Group.prunedOf f.groups).isEmpty = !f.isActive := Group.isEmpty_prunedOf f.groups
  rw [pruned?, hactive]
  cases f.isActive <;> rfl

theorem rows_of_pruned? (h : f.pruned? = some left) :
    left.rows = f.rows.filter fun c => !c.isBlank := by
  obtain rfl := pruned?_eq_some h
  exact Group.rowsOf_prunedOf f.groups

theorem subgroupsOf_of_pruned? (h : f.pruned? = some left) :
    Group.subgroupsOf left.groups = (Group.subgroupsOf f.groups).filterMap Group.pruned? := by
  obtain rfl := pruned?_eq_some h
  rw [Group.prunedOf_eq_filterMap, Group.subgroupsOf_filterMap_pruned?]

/-- **What pruning leaves is in normal form.** -/
theorem isPruned_of_pruned? (h : f.pruned? = some left) : left.IsPruned where
  groups_ne_nil := by
    rw [pruned?] at h
    split at h
    case isTrue => cases h
    case isFalse hgroups =>
      obtain rfl := Option.some.inj h
      exact fun hnil => hgroups (List.isEmpty_iff.2 hnil)
  row_isBlank c hc := by
    rw [rows_of_pruned? h] at hc
    simpa using (List.mem_filter.1 hc).2
  group_isEmpty g hg := by
    rw [subgroupsOf_of_pruned? h] at hg
    obtain ⟨whole, -, hwhole⟩ := List.mem_filterMap.1 hg
    exact (Group.pruned?_eq_some hwhole).2

/-- **The normal forms are the filters that pruning leaves as they are.** -/
theorem pruned?_eq_self_iff : f.pruned? = some f ↔ f.IsPruned := by
  constructor
  · exact isPruned_of_pruned?
  · intro h
    have hgroups : ¬ f.groups.isEmpty = true := fun hnil => h.groups_ne_nil (List.isEmpty_iff.1 hnil)
    rw [pruned?, Group.prunedOf_eq_self h.row_isBlank h.group_isEmpty, if_neg hgroups]

/-- **Pruning leaves the normal form of a filter.**  Something remains exactly if the filter is
active.  What remains has no blank row and no empty group at any depth; it has the rows with a field,
in their order, and the connective.  Its groups, at all depths and in order, are what remains of the
groups of the filter, and a group of which something remains keeps its id, its connective, its rows
with a field and what remains of its groups.  Pruning leaves it as it is, and with every catalog it
has the same problems and the same labels.  A filter of which nothing remains has none of either. -/
theorem isPruned_pruned? (f : Filter) :
    f.pruned?.isSome = f.isActive ∧
    (∀ left, f.pruned? = some left →
      left.IsPruned ∧
      left.rows = (f.rows.filter fun c => !c.isBlank) ∧
      left.connective = f.connective ∧
      Group.subgroupsOf left.groups = (Group.subgroupsOf f.groups).filterMap Group.pruned? ∧
      left.pruned? = some left ∧
      ∀ catalog, left.validate catalog = f.validate catalog ∧
        left.labels catalog = f.labels catalog) ∧
    (f.pruned? = none →
      ∀ catalog, f.validate catalog = ⟨[], []⟩ ∧ f.labels catalog = []) ∧
    ∀ g left : Group, g.pruned? = some left →
      left = ⟨g.id, g.connective, g.conditions.filter fun c => !c.isBlank,
        g.groups.filterMap Group.pruned?⟩ := by
  refine ⟨isSome_pruned? f, fun left h => ?_, fun h catalog => ?_,
    fun g left h => (Group.pruned?_eq_some h).1⟩
  · have hrows := rows_of_pruned? h
    have hpruned := isPruned_of_pruned? h
    refine ⟨hpruned, hrows, ?_, subgroupsOf_of_pruned? h, pruned?_eq_self_iff.2 hpruned,
      fun catalog => ⟨validate_of_rows_eq hrows catalog, labels_of_rows_eq hrows catalog⟩⟩
    rw [pruned?_eq_some h]
  · -- no row has a field, so the filter is shown and checked like one without rows
    have hrows : empty.rows = f.rows.filter fun c => !c.isBlank := by
      rw [rows, rows, ← Group.rowsOf_prunedOf, prunedOf_eq_nil h]
      rfl
    rw [← validate_of_rows_eq hrows, ← labels_of_rows_eq hrows]
    exact ⟨rfl, rfl⟩

/-- A group with a blank row and an empty group below it, and nothing else. -/
def blankBelow : Group := ⟨"a", .all, [], [⟨"b", .any, [.blank "1"], [⟨"e", .all, [], []⟩]⟩]⟩

/-- A group with a row, another group, and maybe more rows. -/
def withRows (more : List Condition) : Group :=
  ⟨"c", .any, more ++ [⟨"3", "age", .known .between, .nothing⟩],
    [⟨"d", .all, [⟨"4", "vip", .known .isTrue, .nothing⟩], []⟩]⟩

/-- The first group goes with all that is below it, the second one stays without its blank row.  Of
the first group alone, nothing remains. -/
theorem isPruned_pruned?_nested_blanks :
    pruned? ⟨[blankBelow, withRows [.blank "2"]], .any⟩ = some ⟨[withRows []], .any⟩ ∧
    IsPruned ⟨[withRows []], .any⟩ ∧
    (∀ catalog, validate ⟨[withRows []], .any⟩ catalog =
      validate ⟨[blankBelow, withRows [.blank "2"]], .any⟩ catalog) ∧
    (withRows [.blank "2"]).pruned? = some (withRows []) ∧
    (withRows []).groups = (withRows [.blank "2"]).groups.filterMap Group.pruned? ∧
    pruned? ⟨[blankBelow], .any⟩ = none ∧
    ∀ catalog, labels ⟨[blankBelow], .any⟩ catalog = [] := by
  obtain ⟨-, hsome, -, hgroup⟩ := isPruned_pruned? ⟨[blankBelow, withRows [.blank "2"]], .any⟩
  obtain ⟨-, -, hnone, -⟩ := isPruned_pruned? ⟨[blankBelow], .any⟩
  obtain ⟨hpruned, -, -, -, -, hseen⟩ := hsome ⟨[withRows []], .any⟩ rfl
  have hremains : (withRows [.blank "2"]).pruned? = some (withRows []) := rfl
  exact ⟨rfl, hpruned, fun catalog => (hseen catalog).1, hremains,
    congrArg Group.groups (hgroup _ _ hremains), rfl, fun catalog => (hnone rfl catalog).2⟩

end Filter
end RecordFilter
