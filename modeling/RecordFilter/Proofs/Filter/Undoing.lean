import RecordFilter.Proofs.Filter.Session
import RecordFilter.Proofs.Filter.Vacancy

/-!
# Taking edits back

A row that is added can be removed again, a row that is replaced can be put back, and a connective
can be toggled back.  Only a group that had nothing in it does not come back: the removal of its new
row leaves it empty, and so it goes.

* `Group.Place.IsOfFirst` — the first group with an id, and its place.
* `Group.remaining?_with_row` — what is left of a group when a row that was added to it is removed.
* `Group.filterMap_remaining?_fill_with_row` — the same for a tree with this group at a place.
* `Filter.value_removeCondition_addCondition`, `Filter.value_updateCondition_updateCondition`,
  `Filter.value_toggleGroupOperator_toggleGroupOperator` — the pairs of edits.
* `Filter.value_edit_taken_back` — all of them together.
-/

set_option autoImplicit false

namespace RecordFilter

theorem Connective.toggled_toggled (connective : Connective) :
    connective.toggled.toggled = connective := by
  cases connective <;> rfl

namespace Group

/-- Whether this group stands at the place in these groups, and no group before it has its id. -/
structure Place.IsOfFirst (p : Place) (g : Group) (groups : List Group) : Prop where
  eq_fill : groups = p.fill g
  id_ne : ∀ h ∈ p.earlier, h.id ≠ g.id

/-! ## A row that is added and removed -/

section

variable {c : Condition} {g : Group} {p : Place}

/-- **A group comes back when its new row is removed**, unless it was empty. -/
theorem remaining?_with_row (hnew : ∀ r ∈ g.rows, r.id ≠ c.id) :
    remaining? c.id { g with conditions := g.conditions ++ [c] } =
      if g.isEmpty then none else some g := by
  obtain ⟨own, connective, conditions, groups⟩ := g
  rw [rows, List.forall_mem_append] at hnew
  have hholds : holdsRow c.id ⟨own, connective, conditions ++ [c], groups⟩ = true :=
    holdsRow_iff.2 ⟨c, List.mem_append_left _ (List.mem_append_right _ List.mem_cons_self), rfl⟩
  have hrow : ([c].filter fun r => r.id != c.id) = [] := by simp
  have hback : withoutRow c.id ⟨own, connective, conditions ++ [c], groups⟩ =
      ⟨own, connective, conditions, groups⟩ := by
    rw [withoutRow_eq, List.filter_append, filter_ne_eq_self hnew.1, hrow, List.append_nil,
      filterMap_remaining?_eq_self hnew.2]
  rw [remaining?_of_holdsRow hholds, hback]

/-- **A tree comes back when a new row is removed**, unless the group that had the row was empty;
then its place is vacated. -/
theorem filterMap_remaining?_fill_with_row (hnew : ∀ r ∈ rowsOf (p.fill g), r.id ≠ c.id) :
    (p.fill { g with conditions := g.conditions ++ [c] }).filterMap (remaining? c.id) =
      if g.isEmpty then p.vacated else p.fill g := by
  rw [p.rowsOf_fill, List.forall_mem_append, List.forall_mem_append] at hnew
  obtain ⟨⟨hearlier, hg⟩, hlater⟩ := hnew
  have hplace : p.withoutRow c.id = p := Place.withoutRow_eq_self hearlier hlater
  have hleft := remaining?_with_row hg
  by_cases hempty : g.isEmpty = true
  · rw [if_pos hempty] at hleft ⊢
    rw [Place.filterMap_remaining?_fill_of_none hleft, hplace]
  · rw [if_neg hempty] at hleft ⊢
    rw [Place.filterMap_remaining?_fill_of_some hleft, hplace]

end

end Group

namespace Filter

variable {f : Filter}

theorem forall_id_ne_of_not_mem_rowIds {id : String} (h : id ∉ f.rowIds) :
    ∀ r ∈ Group.rowsOf f.groups, r.id ≠ id :=
  fun _ hr hid => h (List.mem_map.2 ⟨_, hr, hid⟩)

/-- Removing a row that is not there changes nothing. -/
theorem value_removeCondition_of_not_mem {id : String} (h : id ∉ f.rowIds) :
    (f.removeCondition id).value = f := by
  rw [value_removeCondition, Group.withoutRowIn_eq_self
    (Group.not_anyHoldsRow_iff.2 (forall_id_ne_of_not_mem_rowIds h))]

/-- A row for a group that is not there is not added. -/
theorem value_addCondition_of_not_mem {group : String} (h : group ∉ f.groupIds) (c : Condition) :
    (f.addCondition group c).value = f := by
  rw [addCondition, Group.updateFirstIn?_of_not_mem (Group.forall_id_ne_of_not_mem h), withGroups,
    Noted.debug]

/-- **A row that is added and removed leaves the filter as it was**, unless its group was empty. -/
theorem value_removeCondition_addCondition {p : Group.Place} {g : Group} {c : Condition}
    (hp : p.IsOfFirst g f.groups) (hc : c.id ∉ f.rowIds) :
    ((f.addCondition g.id c).value.removeCondition c.id).value =
      ⟨if g.isEmpty then p.vacated else p.fill g, f.connective⟩ := by
  have hadded : (f.addCondition g.id c).value =
      ⟨p.fill { g with conditions := g.conditions ++ [c] }, f.connective⟩ := by
    rw [addCondition, hp.eq_fill, Group.updateFirstIn?_fill rfl hp.id_ne, withGroups]
  have hnew := forall_id_ne_of_not_mem_rowIds hc
  rw [hp.eq_fill] at hnew
  rw [hadded, value_removeCondition, Group.withoutRowIn_eq_filterMap,
    Group.filterMap_remaining?_fill_with_row hnew]

/-! ## A row that is replaced and put back -/

/-- **Replacing a row and putting it back leaves the filter as it was.** -/
theorem value_updateCondition_updateCondition {c old : Condition}
    (hold : (f.rows.find? fun r => r.id == c.id) = some old) :
    ((f.updateCondition c).value.updateCondition old).value = f := by
  have hmem : ∃ r ∈ Group.rowsOf f.groups, r.id = c.id :=
    ⟨old, List.mem_of_find?_eq_some hold, beq_iff_eq.1 (List.find?_some hold :)⟩
  obtain ⟨p, ⟨own, connective, conditions, groups⟩, before, first, after, hgroups, hg, hid,
    hearlier⟩ := Group.exists_place_of_mem_rowsOf hmem
  obtain rfl : conditions = before ++ first :: after := hg
  -- the first row with the id in the order of the rows is the one at the place
  have hfound : (f.rows.find? fun r => r.id == c.id) = some first := by
    refine List.find?_eq_some_iff_append.2 ⟨beq_iff_eq.2 hid,
      p.earlier.flatMap Group.conditions ++ before,
      after ++ Group.rowsOf groups ++ p.later.flatMap Group.conditions, ?_, fun r hr => ?_⟩
    · rw [rows, hgroups, p.rowsOf_fill, Group.rows]
      simp only [List.append_assoc, List.cons_append]
    · simpa using hearlier r hr
  obtain rfl : first = old := Option.some.inj (hfound.symm.trans hold)
  have hreplaced : (f.updateCondition c).value =
      ⟨p.fill ⟨own, connective, before ++ c :: after, groups⟩, f.connective⟩ := by
    rw [updateCondition, hgroups, Group.replaceFirstIn?_fill rfl hid hearlier, withGroups]
  rw [hreplaced, updateCondition, Group.replaceFirstIn?_fill rfl hid.symm (hid ▸ hearlier),
    withGroups, ← hgroups]

/-! ## A connective that is toggled back -/

theorem value_toggleGroupOperator_fill {p : Group.Place} (g : Group) (connective : Connective)
    (hfirst : ∀ h ∈ p.earlier, h.id ≠ g.id) :
    (toggleGroupOperator ⟨p.fill g, connective⟩ g.id).value =
      ⟨p.fill { g with connective := g.connective.toggled }, connective⟩ := by
  rw [toggleGroupOperator, Group.updateFirstIn?_fill rfl hfirst, withGroups]

/-- **Toggling the connective of a group twice leaves the filter as it was.** -/
theorem value_toggleGroupOperator_toggleGroupOperator (f : Filter) (group : String) :
    ((f.toggleGroupOperator group).value.toggleGroupOperator group).value = f := by
  obtain ⟨groups, global⟩ := f
  by_cases hid : group ∈ Group.idsOf groups
  · obtain ⟨p, ⟨own, connective, conditions, below⟩, rfl, rfl, hfirst⟩ :=
      Group.exists_place_of_mem_idsOf hid
    have hthere := value_toggleGroupOperator_fill ⟨own, connective, conditions, below⟩ global hfirst
    have hback := value_toggleGroupOperator_fill ⟨own, connective.toggled, conditions, below⟩ global
      hfirst
    rw [hthere, hback]
    simp only [Connective.toggled_toggled]
  · have hnone : (toggleGroupOperator ⟨groups, global⟩ group).value = ⟨groups, global⟩ := by
      rw [toggleGroupOperator,
        Group.updateFirstIn?_of_not_mem (Group.forall_id_ne_of_not_mem hid), withGroups,
        Noted.debug]
    rw [hnone, hnone]

/-! ## All of these edits -/

/-- **Edits can be taken back.**  Let a row with a new id be added to a group and removed.  If no group
has the id, the filter is as it was.  Otherwise some group is the first one with it; if this group had
a row or a group, the filter is as it was.  If it had neither, its place is vacated: the group goes,
and with it the groups around it that are empty then.  So a group is cut out that has nothing in it
but other groups one inside the other, down to that one; all else stands as it did; and of the groups
without rows and groups that one is missing and none is new.  A row that replaces the first one with
its id, and is replaced by it again, leaves the filter as it was, and so do two toggles of one group.
Ids may occur any number of times but for that of the new row. -/
theorem value_edit_taken_back (f : Filter) :
    (∀ group ∈ f.groupIds, ∃ (p : Group.Place) (g : Group),
      p.IsOfFirst g f.groups ∧ g.id = group) ∧
    (∀ c : Condition, c.id ∉ f.rowIds →
      (∀ group ∉ f.groupIds, ((f.addCondition group c).value.removeCondition c.id).value = f) ∧
      ∀ (p : Group.Place) (g : Group), p.IsOfFirst g f.groups →
        (g.isEmpty = false →
          ((f.addCondition g.id c).value.removeCondition c.id).value = f) ∧
        (g.isEmpty = true →
          ((f.addCondition g.id c).value.removeCondition c.id).value =
            ⟨p.vacated, f.connective⟩ ∧
          (∃ outer, Group.Wraps g outer ∧ Group.Without outer f.groups p.vacated) ∧
          ∃ before after,
            (Group.subgroupsOf f.groups).filter Group.isEmpty = before ++ g :: after ∧
            (Group.subgroupsOf p.vacated).filter Group.isEmpty = before ++ after)) ∧
    (∀ c old : Condition, (f.rows.find? fun r => r.id == c.id) = some old →
      ((f.updateCondition c).value.updateCondition old).value = f) ∧
    ∀ group : String, ((f.toggleGroupOperator group).value.toggleGroupOperator group).value = f := by
  refine ⟨fun group hgroup => ?_, fun c hc => ⟨fun group hgroup => ?_, fun p g hp => ?_⟩,
    fun c old hold => value_updateCondition_updateCondition hold,
    value_toggleGroupOperator_toggleGroupOperator f⟩
  · obtain ⟨p, g, hgroups, rfl, hfirst⟩ := Group.exists_place_of_mem_idsOf hgroup
    exact ⟨p, g, ⟨hgroups, hfirst⟩, rfl⟩
  · rw [value_addCondition_of_not_mem hgroup, value_removeCondition_of_not_mem hc]
  · have hvalue := value_removeCondition_addCondition hp hc
    refine ⟨fun hfull => ?_, fun hempty => ⟨?_, ?_, ?_⟩⟩
    · rw [hvalue, hfull, if_neg Bool.false_ne_true, ← hp.eq_fill]
    · rw [hvalue, if_pos hempty]
    · rw [hp.eq_fill]
      exact p.exists_without_vacated g
    · rw [hp.eq_fill]
      exact p.exists_filter_isEmpty_vacated hempty

/-- An empty group inside of another one, a group with the same id and a row, and a group with an
empty one in it. -/
def withEmptyGroups : Filter :=
  ⟨[⟨"a", .all, [], [⟨"b", .any, [], []⟩]⟩, ⟨"b", .all, [.blank "1"], []⟩,
    ⟨"c", .any, [.blank "1"], [⟨"d", .all, [], []⟩]⟩], .any⟩

/-- The first group with its id is empty, and goes with the group around it when its new row is
removed; so does the last one, by itself.  A group that is not there gets no row, one that has a row
comes back, and so does the first of two rows with an id. -/
theorem value_edit_taken_back_withEmptyGroups :
    (∃ (p : Group.Place) (g : Group), p.IsOfFirst g withEmptyGroups.groups ∧ g.id = "b") ∧
    ((withEmptyGroups.addCondition "b" (.blank "2")).value.removeCondition "2").value =
      ⟨withEmptyGroups.groups.drop 1, .any⟩ ∧
    ((withEmptyGroups.addCondition "d" (.blank "2")).value.removeCondition "2").value =
      ⟨withEmptyGroups.groups.take 2 ++ [⟨"c", .any, [.blank "1"], []⟩], .any⟩ ∧
    ((withEmptyGroups.addCondition "e" (.blank "2")).value.removeCondition "2").value =
      withEmptyGroups ∧
    ((withEmptyGroups.addCondition "c" (.blank "2")).value.removeCondition "2").value =
      withEmptyGroups ∧
    ((withEmptyGroups.updateCondition ⟨"1", "name", .blank, .nothing⟩).value.updateCondition
      (.blank "1")).value = withEmptyGroups := by
  obtain ⟨hfirst, hadded, hreplaced, -⟩ := value_edit_taken_back withEmptyGroups
  obtain ⟨hnone, hplace⟩ := hadded (.blank "2") (by decide)
  have hb : Group.Place.IsOfFirst
      (.inside [] "a" .all [] (.among [] []) (withEmptyGroups.groups.drop 1)) ⟨"b", .any, [], []⟩
      withEmptyGroups.groups := ⟨rfl, by decide⟩
  have hd : Group.Place.IsOfFirst
      (.inside (withEmptyGroups.groups.take 2) "c" .any [.blank "1"] (.among [] []) [])
      ⟨"d", .all, [], []⟩ withEmptyGroups.groups := ⟨rfl, by decide⟩
  have hc : Group.Place.IsOfFirst (.among (withEmptyGroups.groups.take 2) [])
      ⟨"c", .any, [.blank "1"], [⟨"d", .all, [], []⟩]⟩ withEmptyGroups.groups := ⟨rfl, by decide⟩
  exact ⟨hfirst "b" (by decide), ((hplace _ _ hb).2 rfl).1, ((hplace _ _ hd).2 rfl).1,
    hnone "e" (by decide), (hplace _ _ hc).1 rfl, hreplaced _ (.blank "1") rfl⟩

end Filter
end RecordFilter
