import RecordFilter.Proofs.Filter.Place
import RecordFilter.Proofs.Filter.Removal

/-!
# Removing rows around a place

When rows are removed from a tree, either something is left of the group at a place, and then of all
groups around it, or nothing is, and then the groups around it go that this leaves empty.

* `Group.Place.withoutRow` — a place in a tree from which rows are removed.
* `Group.Place.vacated` — a tree without the group at a place, and without the groups around it that
  are empty then.
* `Group.Place.filterMap_remaining?_fill_of_some`, `Group.Place.filterMap_remaining?_fill_of_none` —
  what is left of a tree, from what is left of the group at a place.
* `Group.Wraps` — a group with nothing in it but one other group, at any depth.
  `Group.Place.exists_without_vacated` says that such a group is cut out when a place is vacated.
* `Group.Place.exists_filter_isEmpty_vacated` — no empty group is left behind.
-/

set_option autoImplicit false

namespace RecordFilter
namespace Group

variable {id : String}

/-! ## Where no rows are removed -/

theorem filterMap_remaining?_eq_self {groups : List Group} (h : ∀ c ∈ rowsOf groups, c.id ≠ id) :
    groups.filterMap (remaining? id) = groups := by
  rw [← withoutRowIn_eq_filterMap, withoutRowIn_eq_self (not_anyHoldsRow_iff.2 h)]

theorem filter_ne_eq_self {conditions : List Condition} (h : ∀ c ∈ conditions, c.id ≠ id) :
    (conditions.filter fun c => c.id != id) = conditions :=
  List.filter_eq_self.2 fun c hc => bne_iff_ne.2 (h c hc)

/-! ## What is left of a group, from its parts -/

/-- A group stays if one of its rows stays, or one of its groups. -/
theorem remaining?_of_ne_nil {g : Group}
    (h : (g.conditions.filter fun c => c.id != id) ≠ [] ∨ g.groups.filterMap (remaining? id) ≠ []) :
    remaining? id g = some (g.withoutRow id) := by
  have hfull : (g.withoutRow id).isEmpty = false := by
    rw [withoutRow_eq, isEmpty, Bool.and_eq_false_iff]
    simpa only [List.isEmpty_eq_false_iff] using h
  rw [remaining?, hfull, Bool.and_false, if_neg Bool.false_ne_true]

theorem holdsRow_of_remaining?_eq_none {g : Group} (h : remaining? id g = none) :
    g.holdsRow id = true := by
  by_contra hnone
  rw [remaining?_of_not_holdsRow hnone] at h
  cases h

namespace Place

/-! ## A place in what is left -/

/-- The place in a tree from which the rows with this id are removed, if something is left of what
stands there. -/
def withoutRow (id : String) : Place → Place
  | among before after => among (before.filterMap (remaining? id)) (after.filterMap (remaining? id))
  | inside before own connective conditions below after =>
    inside (before.filterMap (remaining? id)) own connective
      (conditions.filter fun c => c.id != id) (below.withoutRow id)
      (after.filterMap (remaining? id))

/-- The groups without the one at the place, and without the groups around it that this leaves
empty. -/
def vacated : Place → List Group
  | among before after => before ++ after
  | inside before own connective conditions below after =>
    if conditions.isEmpty && below.vacated.isEmpty then before ++ after
    else before ++ ⟨own, connective, conditions, below.vacated⟩ :: after

variable {p : Place} {g : Group}

theorem fill_ne_nil (p : Place) (g : Group) : p.fill g ≠ [] := by
  cases p <;> exact List.append_ne_nil_of_right_ne_nil _ (List.cons_ne_nil _ _)

/-- **If something is left of the group at a place, it stands at the place in what is left.** -/
theorem filterMap_remaining?_fill_of_some {left : Group} (h : remaining? id g = some left) :
    (p.fill g).filterMap (remaining? id) = (p.withoutRow id).fill left := by
  induction p with
  | among before after =>
    rw [fill, withoutRow, fill, List.filterMap_append, List.filterMap_cons_some h]
  | inside before own connective conditions below after ih =>
    have hstays : remaining? id ⟨own, connective, conditions, below.fill g⟩ =
        some ⟨own, connective, conditions.filter fun c => c.id != id,
          (below.withoutRow id).fill left⟩ := by
      rw [remaining?_of_ne_nil (Or.inr (ih ▸ fill_ne_nil _ _)), withoutRow_eq, ih]
    rw [fill, withoutRow, fill, List.filterMap_append, List.filterMap_cons_some hstays]

/-- **If nothing is left of the group at a place, the place is vacated.** -/
theorem filterMap_remaining?_fill_of_none (h : remaining? id g = none) :
    (p.fill g).filterMap (remaining? id) = (p.withoutRow id).vacated := by
  induction p with
  | among before after =>
    rw [fill, withoutRow, vacated, List.filterMap_append, List.filterMap_cons_none h]
  | inside before own connective conditions below after ih =>
    -- the groups around lose a row too, so they are left only if they are not empty then
    have hholds : holdsRow id ⟨own, connective, conditions, below.fill g⟩ = true := by
      obtain ⟨c, hc, hid⟩ := holdsRow_iff.1 (holdsRow_of_remaining?_eq_none h)
      refine holdsRow_iff.2 ⟨c, ?_, hid⟩
      rw [rows, below.rowsOf_fill]
      simp only [List.mem_append]
      exact Or.inr (Or.inl (Or.inr hc))
    rw [fill, withoutRow, vacated, List.filterMap_append]
    by_cases hempty : ((conditions.filter fun c => c.id != id).isEmpty &&
        (below.withoutRow id).vacated.isEmpty) = true
    · have hgoes : remaining? id ⟨own, connective, conditions, below.fill g⟩ = none := by
        rw [remaining?_of_holdsRow hholds, withoutRow_eq, ih, isEmpty, if_pos hempty]
      rw [List.filterMap_cons_none hgoes, if_pos hempty]
    · have hstays : remaining? id ⟨own, connective, conditions, below.fill g⟩ =
          some ⟨own, connective, conditions.filter fun c => c.id != id,
            (below.withoutRow id).vacated⟩ := by
        rw [remaining?_of_holdsRow hholds, withoutRow_eq, ih, isEmpty, if_neg hempty]
      rw [List.filterMap_cons_some hstays, if_neg hempty]

/-- The rows before the place in what is left are those that stay of the rows before it. -/
theorem flatMap_earlier_withoutRow (p : Place) :
    (p.withoutRow id).earlier.flatMap Group.conditions =
      (p.earlier.flatMap Group.conditions).filter fun c => c.id != id := by
  have hleft : ∀ groups : List Group,
      (nodesOf (groups.filterMap (remaining? id))).flatMap Group.conditions =
        ((nodesOf groups).flatMap Group.conditions).filter fun c => c.id != id := by
    intro groups
    rw [← rowsOf_eq_flatMap, ← rowsOf_eq_flatMap, ← withoutRowIn_eq_filterMap,
      rowsOf_withoutRowIn]
  induction p with
  | among before after => exact hleft before
  | inside before own connective conditions below after ih =>
    simp only [withoutRow, earlier, List.flatMap_append, List.flatMap_cons, List.filter_append,
      hleft before, ih]

/-- Where no rows are removed, the place is the same. -/
theorem withoutRow_eq_self (hearlier : ∀ c ∈ p.earlier.flatMap Group.conditions, c.id ≠ id)
    (hlater : ∀ c ∈ p.later.flatMap Group.conditions, c.id ≠ id) : p.withoutRow id = p := by
  induction p with
  | among before after =>
    rw [earlier, ← rowsOf_eq_flatMap] at hearlier
    rw [later, ← rowsOf_eq_flatMap] at hlater
    rw [withoutRow, filterMap_remaining?_eq_self hearlier, filterMap_remaining?_eq_self hlater]
  | inside before own connective conditions below after ih =>
    rw [earlier, List.flatMap_append, List.flatMap_cons, ← rowsOf_eq_flatMap] at hearlier
    rw [later, List.flatMap_append, ← rowsOf_eq_flatMap] at hlater
    obtain ⟨hbefore, hinside⟩ := List.forall_mem_append.1 hearlier
    obtain ⟨hown, hbelow⟩ := List.forall_mem_append.1 hinside
    obtain ⟨hbehind, hafter⟩ := List.forall_mem_append.1 hlater
    rw [withoutRow, filterMap_remaining?_eq_self hbefore, filter_ne_eq_self hown,
      ih hbelow hbehind, filterMap_remaining?_eq_self hafter]

end Place

/-! ## What goes when a place is vacated -/

/-- Whether the second group is the first one, or has nothing in it but a group that wraps the first
one. -/
inductive Wraps (g : Group) : Group → Prop
  | itself : Wraps g g
  | around (id : String) (connective : Connective) {inner : Group} (h : Wraps g inner) :
      Wraps g ⟨id, connective, [], [inner]⟩

/-- If nothing is left when a group is cut out, it was the only one. -/
theorem Without.eq_of_nil {g : Group} {groups : List Group} (h : Without g groups []) :
    groups = [g] := by
  generalize hleft : ([] : List Group) = left at h
  cases h with
  | among before after =>
    obtain ⟨rfl, rfl⟩ := List.append_eq_nil_iff.1 hleft.symm
    rfl
  | inside before after =>
    exact absurd (List.append_eq_nil_iff.1 hleft.symm).2 (List.cons_ne_nil _ _)

namespace Place

/-- **When a place is vacated, a group is cut out that wraps the one at the place.** -/
theorem exists_without_vacated (p : Place) (g : Group) :
    ∃ outer, Wraps g outer ∧ Without outer (p.fill g) p.vacated := by
  induction p with
  | among before after => exact ⟨g, .itself, .among before after⟩
  | inside before own connective conditions below after ih =>
    obtain ⟨outer, hwraps, hwithout⟩ := ih
    rw [fill, vacated]
    by_cases hempty : (conditions.isEmpty && below.vacated.isEmpty) = true
    · rw [if_pos hempty]
      rw [Bool.and_eq_true, List.isEmpty_iff, List.isEmpty_iff] at hempty
      obtain ⟨rfl, hnothing⟩ := hempty
      rw [hnothing] at hwithout
      rw [hwithout.eq_of_nil]
      exact ⟨_, .around own connective hwraps, .among before after⟩
    · rw [if_neg hempty]
      exact ⟨outer, hwraps, .inside before after own connective conditions hwithout⟩

/-- **Vacating a place leaves no empty group behind**: the empty groups are those that there were,
without the one at the place. -/
theorem exists_filter_isEmpty_vacated (p : Place) {g : Group} (hg : g.isEmpty = true) :
    ∃ before after, (subgroupsOf (p.fill g)).filter isEmpty = before ++ g :: after ∧
      (subgroupsOf p.vacated).filter isEmpty = before ++ after := by
  have hsubgroups : g.subgroups = [g] := by
    obtain ⟨own, connective, conditions, groups⟩ := g
    rw [isEmpty, Bool.and_eq_true, List.isEmpty_iff, List.isEmpty_iff] at hg
    obtain ⟨rfl, rfl⟩ := hg
    rfl
  induction p with
  | among before after =>
    refine ⟨(subgroupsOf before).filter isEmpty, (subgroupsOf after).filter isEmpty, ?_, ?_⟩
    · rw [fill, subgroupsOf_append, subgroupsOf, hsubgroups, List.filter_append,
        List.filter_append, List.filter_cons_of_pos hg]
      rfl
    · rw [vacated, subgroupsOf_append, List.filter_append]
  | inside before own connective conditions below after ih =>
    obtain ⟨first, last, hfilled, hleft⟩ := ih
    refine ⟨(subgroupsOf before).filter isEmpty ++ first,
      last ++ (subgroupsOf after).filter isEmpty, ?_, ?_⟩
    · have hfull : ¬ isEmpty ⟨own, connective, conditions, below.fill g⟩ = true := by
        rw [isEmpty, Bool.and_eq_true, List.isEmpty_iff, List.isEmpty_iff]
        exact fun h => fill_ne_nil below g h.2
      rw [fill, subgroupsOf_append, subgroupsOf, subgroups, List.filter_append,
        List.cons_append, List.filter_cons_of_neg hfull, List.filter_append, hfilled]
      simp only [List.append_assoc, List.cons_append]
    · rw [vacated]
      by_cases hempty : (conditions.isEmpty && below.vacated.isEmpty) = true
      · rw [if_pos hempty]
        rw [Bool.and_eq_true, List.isEmpty_iff, List.isEmpty_iff] at hempty
        rw [hempty.2] at hleft
        obtain ⟨rfl, rfl⟩ := List.append_eq_nil_iff.1 hleft.symm
        rw [subgroupsOf_append, List.filter_append, List.append_nil, List.nil_append]
      · have hfull : ¬ isEmpty ⟨own, connective, conditions, below.vacated⟩ = true := hempty
        rw [if_neg hempty, subgroupsOf_append, subgroupsOf, subgroups, List.filter_append,
          List.cons_append, List.filter_cons_of_neg hfull, List.filter_append, hleft]
        simp only [List.append_assoc]

end Place
end Group
end RecordFilter
