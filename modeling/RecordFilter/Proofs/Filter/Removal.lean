import RecordFilter.Proofs.Filter.Nodes

/-!
# What is left when rows are removed

Removing the rows with an id also removes the groups that this empties, and the groups around them
if they are empty then.  Groups that were empty before stay.  This file says what becomes of each
group of a tree, at whatever depth it stands.

* `Group.remaining?` — what is left of a group: nothing, if the removal empties it.
* `Group.LeavesOutRows` — what this means, in terms of the rows and groups that a group has.
  `Group.leavesOutRows_iff` says that nothing else can be meant by it.
* `Group.subgroupsOf_filterMap_remaining?` — what is left of a tree, group by group: the groups that
  are left of the groups in it, in the same order.
* `Filter.groups_removeCondition` — the same for the edit of a filter.
-/

set_option autoImplicit false

namespace RecordFilter
namespace Group

/-- What is left of a group when the rows with this id are removed. -/
def remaining? (id : String) (g : Group) : Option Group :=
  if g.holdsRow id && (g.withoutRow id).isEmpty then none else some (g.withoutRow id)

/-- Whether `left?` says of every group what is left of it when the rows with an id are removed,
together with the groups that this empties. -/
structure LeavesOutRows (id : String) (left? : Group → Option Group) : Prop where
  /-- A group with no such row in it or below it stays as it is. -/
  untouched (g : Group) (h : ∀ c ∈ g.rows, c.id ≠ id) : left? g = some g
  /-- A group that stays keeps its id, its connective, its other rows and what is left of its
  groups, in order. -/
  parts (g left : Group) (h : left? g = some left) :
    left = ⟨g.id, g.connective, g.conditions.filter fun c => c.id != id, g.groups.filterMap left?⟩
  /-- A group with such a row stays exactly when it has another row of its own, or a group that
  stays. -/
  stays_iff (g : Group) (h : ∃ c ∈ g.rows, c.id = id) :
    (left? g).isSome = true ↔
      (∃ c ∈ g.conditions, c.id ≠ id) ∨ ∃ below ∈ g.groups, (left? below).isSome = true

variable {id : String}

/-! ## One group -/

theorem holdsRow_iff {g : Group} : g.holdsRow id = true ↔ ∃ c ∈ g.rows, c.id = id := by
  rw [holdsRow_eq_any, List.any_eq_true]
  simp only [beq_iff_eq]

theorem not_holdsRow_iff {g : Group} : ¬ g.holdsRow id = true ↔ ∀ c ∈ g.rows, c.id ≠ id := by
  rw [holdsRow_iff]
  push Not
  exact Iff.rfl

theorem not_anyHoldsRow_iff {groups : List Group} :
    ¬ anyHoldsRow id groups = true ↔ ∀ c ∈ rowsOf groups, c.id ≠ id := by
  rw [anyHoldsRow_eq_any, List.any_eq_true]
  simp only [beq_iff_eq]
  push Not
  exact Iff.rfl

/-- Where there is no such row, nothing is removed. -/
theorem withoutRowIn_eq_self {groups : List Group} (h : ¬ anyHoldsRow id groups = true) :
    withoutRowIn id groups = groups := by
  induction groups with
  | nil => rfl
  | cons g rest ih =>
    rw [anyHoldsRow, Bool.or_eq_true, not_or] at h
    rw [withoutRowIn, if_neg h.1, ih h.2]

theorem withoutRow_eq_self {g : Group} (h : ¬ g.holdsRow id = true) : g.withoutRow id = g := by
  obtain ⟨own, connective, conditions, groups⟩ := g
  rw [holdsRow, Bool.or_eq_true, not_or] at h
  have hconditions : (conditions.filter fun c => c.id != id) = conditions := by
    refine List.filter_eq_self.2 fun c hc => bne_iff_ne.2 fun hid => h.1 ?_
    exact List.any_eq_true.2 ⟨c, hc, beq_iff_eq.2 hid⟩
  rw [withoutRow, hconditions, withoutRowIn_eq_self h.2]

theorem remaining?_of_not_holdsRow {g : Group} (h : ¬ g.holdsRow id = true) :
    remaining? id g = some g := by
  rw [remaining?, Bool.eq_false_iff.2 h, Bool.false_and, if_neg Bool.false_ne_true,
    withoutRow_eq_self h]

theorem remaining?_of_holdsRow {g : Group} (h : g.holdsRow id = true) :
    remaining? id g = if (g.withoutRow id).isEmpty then none else some (g.withoutRow id) := by
  rw [remaining?, h, Bool.true_and]

/-- **Rows are removed from each group by itself**, and what is left stays in order. -/
theorem withoutRowIn_eq_filterMap (groups : List Group) :
    withoutRowIn id groups = groups.filterMap (remaining? id) := by
  induction groups with
  | nil => rfl
  | cons g rest ih =>
    rw [withoutRowIn, List.filterMap_cons, ih]
    by_cases hholds : g.holdsRow id = true
    · rw [if_pos hholds, remaining?_of_holdsRow hholds]
      by_cases hempty : (g.withoutRow id).isEmpty = true
      · rw [if_pos hempty, if_pos hempty]
      · rw [if_neg hempty, if_neg hempty]
    · rw [if_neg hholds, remaining?_of_not_holdsRow hholds]

theorem withoutRow_eq (g : Group) :
    g.withoutRow id = ⟨g.id, g.connective, g.conditions.filter fun c => c.id != id,
      g.groups.filterMap (remaining? id)⟩ := by
  obtain ⟨own, connective, conditions, groups⟩ := g
  rw [withoutRow, withoutRowIn_eq_filterMap]

theorem remaining?_eq_some {g left : Group} (h : remaining? id g = some left) :
    left = ⟨g.id, g.connective, g.conditions.filter fun c => c.id != id,
      g.groups.filterMap (remaining? id)⟩ := by
  rw [remaining?] at h
  split at h
  case isTrue => cases h
  case isFalse => rw [← Option.some.inj h, withoutRow_eq]

/-- Of a group that is removed, nothing is left below it either. -/
theorem filterMap_of_remaining?_eq_none {g : Group} (h : remaining? id g = none) :
    g.groups.filterMap (remaining? id) = [] := by
  rw [remaining?] at h
  split at h
  case isTrue hempty =>
    rw [withoutRow_eq, isEmpty, Bool.and_eq_true, Bool.and_eq_true, List.isEmpty_iff,
      List.isEmpty_iff] at hempty
    exact hempty.2.2
  case isFalse => cases h

theorem leavesOutRows_remaining? : LeavesOutRows id (remaining? id) where
  untouched g h := remaining?_of_not_holdsRow (not_holdsRow_iff.2 h)
  parts g left h := remaining?_eq_some h
  stays_iff g h := by
    have hstays : (remaining? id g).isSome = true ↔ ¬ (g.withoutRow id).isEmpty = true := by
      rw [remaining?_of_holdsRow (holdsRow_iff.2 h)]
      split
      case isTrue hempty => exact iff_of_false Bool.false_ne_true fun hne => hne hempty
      case isFalse hne => exact iff_of_true rfl hne
    rw [hstays, withoutRow_eq, isEmpty, Bool.and_eq_true, List.isEmpty_iff, List.isEmpty_iff,
      List.filter_eq_nil_iff, List.filterMap_eq_nil_iff, not_and_or]
    simp only [bne_iff_ne, Option.isSome_iff_ne_none]
    push Not
    exact Iff.rfl

section

variable {left? : Group → Option Group}

mutual

theorem LeavesOutRows.eq_remaining? (h : LeavesOutRows id left?) : ∀ g : Group,
    left? g = remaining? id g
  | ⟨own, connective, conditions, groups⟩ => by
    have hbelow := h.forall_eq_remaining? groups
    by_cases hholds : ∃ c ∈ rows ⟨own, connective, conditions, groups⟩, c.id = id
    · have hsome : (left? ⟨own, connective, conditions, groups⟩).isSome =
          (remaining? id ⟨own, connective, conditions, groups⟩).isSome := by
        rw [Bool.eq_iff_iff, h.stays_iff _ hholds, leavesOutRows_remaining?.stays_iff _ hholds]
        refine or_congr_right (exists_congr fun below => and_congr_right fun hmem => ?_)
        rw [hbelow below hmem]
      cases hone : left? ⟨own, connective, conditions, groups⟩ with
      | none =>
        cases hleft : remaining? id ⟨own, connective, conditions, groups⟩ with
        | none => rfl
        | some left =>
          rw [hone, hleft] at hsome
          cases hsome
      | some left =>
        cases hleft : remaining? id ⟨own, connective, conditions, groups⟩ with
        | none =>
          rw [hone, hleft] at hsome
          cases hsome
        | some left' =>
          rw [h.parts _ _ hone, remaining?_eq_some hleft, List.filterMap_congr hbelow]
    · have huntouched : ∀ c ∈ rows ⟨own, connective, conditions, groups⟩, c.id ≠ id :=
        fun c hc hid => hholds ⟨c, hc, hid⟩
      rw [h.untouched _ huntouched, leavesOutRows_remaining?.untouched _ huntouched]

theorem LeavesOutRows.forall_eq_remaining? (h : LeavesOutRows id left?) : ∀ groups : List Group,
    ∀ g ∈ groups, left? g = remaining? id g
  | [] => List.forall_mem_nil _
  | g :: rest => List.forall_mem_cons.2 ⟨h.eq_remaining? g, h.forall_eq_remaining? rest⟩

end

/-- **What is left of every group is settled by these conditions.**  They go down the tree, from a
group to the groups in it. -/
theorem leavesOutRows_iff : LeavesOutRows id left? ↔ left? = remaining? id := by
  constructor
  · exact fun h => funext h.eq_remaining?
  · rintro rfl
    exact leavesOutRows_remaining?

end

/-! ## All groups of a tree -/

/-- A group without rows and groups is not touched. -/
theorem not_holdsRow_of_isEmpty {g : Group} (h : g.isEmpty = true) : ¬ g.holdsRow id = true := by
  rw [holdsRow_eq_any, rows_of_isEmpty h]
  exact Bool.false_ne_true

/-- **The groups of what is left are what is left of the groups**, in the same order, at every
depth. -/
theorem subgroupsOf_filterMap_remaining? (groups : List Group) :
    subgroupsOf (groups.filterMap (remaining? id)) =
      (subgroupsOf groups).filterMap (remaining? id) :=
  subgroupsOf_filterMap (fun _ _ h => remaining?_eq_some h ▸ rfl)
    (fun _ => filterMap_of_remaining?_eq_none) groups

/-- Groups that are not touched all stay, and in their order. -/
theorem sublist_filterMap_remaining? (groups : List Group) :
    (groups.filter fun g => !g.holdsRow id).Sublist (groups.filterMap (remaining? id)) := by
  induction groups with
  | nil => exact List.Sublist.refl []
  | cons g rest ih =>
    by_cases hholds : g.holdsRow id = true
    · rw [List.filter_cons_of_neg (by simp [hholds]), List.filterMap_cons]
      cases remaining? id g with
      | none => exact ih
      | some left => exact ih.trans (List.sublist_cons_self left _)
    · rw [List.filter_cons_of_pos (by simp [hholds]),
        List.filterMap_cons_some (remaining?_of_not_holdsRow hholds)]
      exact ih.cons_cons g

/-- **The groups that are empty afterwards are those that were empty before.** -/
theorem filter_isEmpty_filterMap_remaining? (groups : List Group) :
    (groups.filterMap (remaining? id)).filter isEmpty = groups.filter isEmpty := by
  induction groups with
  | nil => rfl
  | cons g rest ih =>
    by_cases hholds : g.holdsRow id = true
    · have hfull : ¬ g.isEmpty = true := fun hempty => not_holdsRow_of_isEmpty hempty hholds
      rw [List.filter_cons_of_neg hfull, ← ih, List.filterMap_cons]
      cases hleft : remaining? id g with
      | none => rfl
      | some left =>
        -- what is left of a group with such a row is left because it is not empty
        have hstays : ¬ left.isEmpty = true := by
          intro hempty
          rw [remaining?_of_holdsRow hholds] at hleft
          split at hleft
          case isTrue => cases hleft
          case isFalse hne => exact hne (Option.some.inj hleft ▸ hempty)
        exact List.filter_cons_of_neg hstays
    · rw [List.filterMap_cons_some (remaining?_of_not_holdsRow hholds), List.filter_cons,
        List.filter_cons, ih]

end Group

/-! ## The edit -/

namespace Filter

theorem value_removeCondition (f : Filter) (id : String) :
    (f.removeCondition id).value = ⟨Group.withoutRowIn id f.groups, f.connective⟩ := by
  rw [removeCondition]
  by_cases hholds : Group.anyHoldsRow id f.groups = true
  · rw [if_pos hholds]
    rfl
  · rw [if_neg hholds, Group.withoutRowIn_eq_self hholds]
    rfl

/-- **Removing rows removes these rows, and the groups that this empties.**  The other rows stay in
their order.  Of each group, at the top and at any depth, there is left what `Group.LeavesOutRows`
says: a group without such a row is left as it is; a group that is left keeps its id, its
connective, its other rows and what is left of its groups; and a group with such a row is left
exactly when it has another row, or a group that is left.  The groups that are left stand in the
order in which they stood, those that are not touched among them.  So the groups that are empty are
those that were empty before, and nothing changes if no row has the id.  The id may be there any
number of times, and so may those of the groups. -/
theorem groups_removeCondition (f : Filter) (id : String) :
    (f.removeCondition id).value.rows = (f.rows.filter fun c => c.id != id) ∧
    (f.removeCondition id).value =
      ⟨f.groups.filterMap (Group.remaining? id), f.connective⟩ ∧
    (∀ left? : Group → Option Group,
      Group.LeavesOutRows id left? ↔ left? = Group.remaining? id) ∧
    Group.subgroupsOf (f.removeCondition id).value.groups =
      (Group.subgroupsOf f.groups).filterMap (Group.remaining? id) ∧
    ((Group.subgroupsOf f.groups).filter fun g => !g.holdsRow id).Sublist
      (Group.subgroupsOf (f.removeCondition id).value.groups) ∧
    (Group.subgroupsOf (f.removeCondition id).value.groups).filter Group.isEmpty =
      (Group.subgroupsOf f.groups).filter Group.isEmpty ∧
    ((∀ c ∈ f.rows, c.id ≠ id) → (f.removeCondition id).value = f) := by
  have hvalue := value_removeCondition f id
  have hsubgroups : Group.subgroupsOf (f.removeCondition id).value.groups =
      (Group.subgroupsOf f.groups).filterMap (Group.remaining? id) := by
    rw [hvalue, Group.withoutRowIn_eq_filterMap, Group.subgroupsOf_filterMap_remaining?]
  refine ⟨?_, ?_, fun left? => Group.leavesOutRows_iff, hsubgroups, ?_, ?_, fun hother => ?_⟩
  · rw [hvalue]
    exact Group.rowsOf_withoutRowIn f.groups
  · rw [hvalue, Group.withoutRowIn_eq_filterMap]
  · rw [hsubgroups]
    exact Group.sublist_filterMap_remaining? _
  · rw [hsubgroups]
    exact Group.filter_isEmpty_filterMap_remaining? _
  · have hnone : ¬ Group.anyHoldsRow id f.groups = true := by
      rw [Group.anyHoldsRow_eq_any, List.any_eq_true]
      rintro ⟨c, hc, hid⟩
      exact hother c hc (beq_iff_eq.1 hid)
    rw [hvalue, Group.withoutRowIn_eq_self hnone]

/-- A row that is there three times.  The first group is left with nothing, once the group in it is;
the second one has another row, and keeps the empty group in it. -/
theorem groups_removeCondition_three_rows :
    (removeCondition
        ⟨[⟨"a", .all, [.blank "x"], [⟨"b", .any, [.blank "x"], []⟩]⟩,
          ⟨"d", .any, [.blank "y", .blank "x"], [⟨"e", .all, [], []⟩]⟩], .any⟩ "x").value =
      ⟨[⟨"d", .any, [.blank "y"], [⟨"e", .all, [], []⟩]⟩], .any⟩ ∧
    (∀ c ∈ Group.rows ⟨"e", .all, [], []⟩, c.id ≠ "x") ∧
    Group.remaining? "x" ⟨"e", .all, [], []⟩ = some ⟨"e", .all, [], []⟩ ∧
    (∀ c ∈ rows ⟨[⟨"d", .any, [.blank "y"], [⟨"e", .all, [], []⟩]⟩], .any⟩, c.id ≠ "x") ∧
    (removeCondition ⟨[⟨"d", .any, [.blank "y"], [⟨"e", .all, [], []⟩]⟩], .any⟩ "x").value =
      ⟨[⟨"d", .any, [.blank "y"], [⟨"e", .all, [], []⟩]⟩], .any⟩ := by
  obtain ⟨-, hgroups, hleft, -⟩ := groups_removeCondition
    ⟨[⟨"a", .all, [.blank "x"], [⟨"b", .any, [.blank "x"], []⟩]⟩,
      ⟨"d", .any, [.blank "y", .blank "x"], [⟨"e", .all, [], []⟩]⟩], .any⟩ "x"
  obtain ⟨-, -, -, -, -, -, hnothing⟩ := groups_removeCondition
    ⟨[⟨"d", .any, [.blank "y"], [⟨"e", .all, [], []⟩]⟩], .any⟩ "x"
  have hempty : ∀ c ∈ Group.rows ⟨"e", .all, [], []⟩, c.id ≠ "x" := by decide
  have hother : ∀ c ∈ rows ⟨[⟨"d", .any, [.blank "y"], [⟨"e", .all, [], []⟩]⟩], .any⟩,
      c.id ≠ "x" := by decide
  exact ⟨hgroups, hempty, ((hleft _).2 rfl).untouched _ hempty, hother, hnothing hother⟩

end Filter
end RecordFilter
