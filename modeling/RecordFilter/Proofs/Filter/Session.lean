import RecordFilter.Proofs.Filter.Place

/-!
# Sessions of edits

A filter is edited step by step, and groups and rows are addressed by their ids all the while.  This
works as long as no id occurs twice.

* `Filter.HasDistinctIds` — no two groups have the same id, and no two rows.
* `Filter.Edit`, `Filter.editedBy` — the edits of a filter, one after the other.
* `Filter.Edit.IsFresh` — what an edit adds has ids that are new.
* `Filter.HasDistinctIds.edited` — such an edit keeps ids distinct.
* `Filter.removeGroup_editedBy` — so do all edits of a session, and at its end the removal of a
  group cuts out this group and nothing else.
-/

set_option autoImplicit false

namespace RecordFilter
namespace Filter

/-! ## Distinct ids -/

/-- The ids of all groups, in order. -/
def groupIds (f : Filter) : List String := Group.idsOf f.groups

/-- The ids of all rows, in order. -/
def rowIds (f : Filter) : List String := Group.rowIdsOf f.groups

/-- Whether no two groups have the same id and no two rows have the same id, at any depth. -/
structure HasDistinctIds (f : Filter) : Prop where
  groupIds_nodup : f.groupIds.Nodup
  rowIds_nodup : f.rowIds.Nodup

/-! ## Edits -/

/-- An edit of a filter. -/
inductive Edit where
  | addGroup (g : Group) (parent : Option String)
  | removeGroup (id : String)
  | addCondition (group : String) (c : Condition)
  | removeCondition (id : String)
  | updateCondition (c : Condition)
  | setGroupOperator (group : String) (connective : Connective)
  | toggleGroupOperator (group : String)
  | setOperator (connective : Connective)
  | clear

/-- A filter after an edit. -/
def edited (f : Filter) : Edit → Filter
  | .addGroup g parent => (f.addGroup g parent).value
  | .removeGroup id => (f.removeGroup id).value
  | .addCondition group c => (f.addCondition group c).value
  | .removeCondition id => (f.removeCondition id).value
  | .updateCondition c => (f.updateCondition c).value
  | .setGroupOperator group connective => (f.setGroupOperator group connective).value
  | .toggleGroupOperator group => (f.toggleGroupOperator group).value
  | .setOperator connective => f.setOperator connective
  | .clear => f.clear

/-- A filter after some edits, one after the other. -/
def editedBy (f : Filter) (edits : List Edit) : Filter := edits.foldl edited f

namespace Edit

/-- The ids of the groups that an edit brings. -/
def groupIds : Edit → List String
  | addGroup g _ => g.nodes.map fun h => h.id
  | _ => []

/-- The ids of the rows that an edit brings. -/
def rowIds : Edit → List String
  | addGroup g _ => g.rows.map Condition.id
  | addCondition _ c => [c.id]
  | _ => []

/-- Whether an edit brings ids that a filter does not have, and none of them twice. -/
structure IsFresh (f : Filter) (e : Edit) : Prop where
  groupIds_nodup : e.groupIds.Nodup
  rowIds_nodup : e.rowIds.Nodup
  groupIds_new : ∀ id ∈ e.groupIds, id ∉ f.groupIds
  rowIds_new : ∀ id ∈ e.rowIds, id ∉ f.rowIds

end Edit

/-- Whether each of these edits is fresh for the filter that it is made on. -/
def AllFresh : Filter → List Edit → Prop
  | _, [] => True
  | f, e :: rest => e.IsFresh f ∧ AllFresh (f.edited e) rest

/-! ## What one edit keeps -/

namespace HasDistinctIds

variable {f : Filter} {e : Edit}

/-- Adding ids that are new keeps ids distinct, wherever they are added. -/
theorem of_perm (h : f.HasDistinctIds) (he : e.IsFresh f) {groups : List Group}
    (hids : (Group.idsOf groups).Perm (f.groupIds ++ e.groupIds))
    (hrows : (Group.rowIdsOf groups).Perm (f.rowIds ++ e.rowIds)) :
    HasDistinctIds { f with groups := groups } := by
  constructor
  · refine hids.nodup_iff.2 (List.nodup_append.2 ⟨h.groupIds_nodup, he.groupIds_nodup, ?_⟩)
    rintro id hold _ hnew rfl
    exact he.groupIds_new id hnew hold
  · refine hrows.nodup_iff.2 (List.nodup_append.2 ⟨h.rowIds_nodup, he.rowIds_nodup, ?_⟩)
    rintro id hold _ hnew rfl
    exact he.rowIds_new id hnew hold

/-- Leaving ids out keeps the others distinct. -/
theorem of_sublist (h : f.HasDistinctIds) {groups : List Group}
    (hids : (Group.idsOf groups).Sublist f.groupIds)
    (hrows : (Group.rowIdsOf groups).Sublist f.rowIds) :
    HasDistinctIds { f with groups := groups } :=
  ⟨h.groupIds_nodup.sublist hids, h.rowIds_nodup.sublist hrows⟩

/-- An edit that does not find what it is for changes nothing. -/
theorem withGroups (h : f.HasDistinctIds) {groups : Option (List Group)} {note : String}
    (hgroups : ∀ left, groups = some left → HasDistinctIds { f with groups := left }) :
    (f.withGroups groups note).value.HasDistinctIds := by
  cases groups with
  | none => exact h
  | some left => exact hgroups left rfl

/-- The change of one group keeps ids distinct, if the ids that it adds are those of the edit. -/
theorem updateFirstIn? (h : f.HasDistinctIds) (he : e.IsFresh f) {id note : String}
    {change : Group → Group}
    (hids : ∀ g : Group, ((change g).nodes.map fun h => h.id).Perm
      ((g.nodes.map fun h => h.id) ++ e.groupIds))
    (hrows : ∀ g : Group, ((change g).rows.map Condition.id).Perm
      (g.rows.map Condition.id ++ e.rowIds)) :
    (f.withGroups (Group.updateFirstIn? id change f.groups) note).value.HasDistinctIds := by
  refine h.withGroups fun left hleft => ?_
  obtain ⟨hleftIds, hleftRows⟩ := Group.perm_of_updateFirstIn? hids hrows hleft
  exact h.of_perm he hleftIds hleftRows

theorem removeGroup (h : f.HasDistinctIds) (id : String) :
    (f.removeGroup id).value.HasDistinctIds := by
  refine h.withGroups fun left hleft => ?_
  obtain ⟨cut, -, hwithout⟩ := Group.without_of_dropGroupIn? h.groupIds_nodup hleft
  obtain ⟨before, after, hgroups, hleft⟩ := hwithout.exists_nodesOf
  obtain ⟨rowsBefore, rowsAfter, hrows, hrowsLeft⟩ := hwithout.exists_rowsOf
  refine h.of_sublist ?_ ?_
  · rw [Filter.groupIds, Group.idsOf, Group.idsOf, hgroups, hleft]
    exact ((List.sublist_append_left before cut.nodes).append_right after).map _
  · rw [Filter.rowIds, Group.rowIdsOf, Group.rowIdsOf, hrows, hrowsLeft]
    exact ((List.sublist_append_left rowsBefore cut.rows).append_right rowsAfter).map _

theorem removeCondition (h : f.HasDistinctIds) (id : String) :
    (f.removeCondition id).value.HasDistinctIds := by
  refine h.withGroups fun left hleft => ?_
  by_cases hholds : Group.anyHoldsRow id f.groups = true
  · rw [if_pos hholds] at hleft
    obtain rfl := Option.some.inj hleft
    refine h.of_sublist (Group.idsOf_withoutRowIn f.groups) ?_
    rw [Filter.rowIds, Group.rowIdsOf, Group.rowIdsOf, Group.rowsOf_withoutRowIn]
    exact List.filter_sublist.map _
  · rw [if_neg hholds] at hleft
    cases hleft

/-- **An edit keeps ids distinct**, if what it adds has ids that are new. -/
theorem edited (h : f.HasDistinctIds) (he : e.IsFresh f) : (f.edited e).HasDistinctIds := by
  cases e with
  | addGroup g parent =>
    cases parent with
    | none =>
      refine h.of_perm he ?_ ?_
      · simp [Group.idsOf, Group.nodesOf_append, Group.nodesOf, Filter.groupIds,
          Edit.groupIds]
      · simp [Group.rowIdsOf, Group.rowsOf_append, Group.rowsOf, Filter.rowIds,
          Edit.rowIds]
    | some parent =>
      refine h.updateFirstIn? he ?_ ?_
      · rintro ⟨id, connective, conditions, groups⟩
        simp [Group.nodes, Group.nodesOf_append, Group.nodesOf, Edit.groupIds]
      · rintro ⟨id, connective, conditions, groups⟩
        simp [Group.rows, Group.rowsOf_append, Group.rowsOf, Edit.rowIds]
  | addCondition group c =>
    refine h.updateFirstIn? he ?_ ?_
    · rintro ⟨id, connective, conditions, groups⟩
      simp [Group.nodes, Edit.groupIds]
    · rintro ⟨id, connective, conditions, groups⟩
      -- the new row stands behind the rows of the group itself, before those below it
      simp only [Group.rows, Edit.rowIds, List.map_append, List.append_assoc]
      exact (List.perm_append_comm).append_left _
  | setGroupOperator | toggleGroupOperator =>
    refine h.updateFirstIn? he ?_ ?_
    · rintro ⟨id, connective, conditions, groups⟩
      simp [Group.nodes, Edit.groupIds]
    · rintro ⟨id, connective, conditions, groups⟩
      simp [Group.rows, Edit.rowIds]
  | removeGroup id => exact h.removeGroup id
  | removeCondition id => exact h.removeCondition id
  | updateCondition c =>
    refine h.withGroups fun left hleft => ?_
    obtain ⟨hids, hrows⟩ := Group.idsOf_replaceFirstIn? hleft
    exact h.of_sublist (hids.symm ▸ List.Sublist.refl _) (hrows.symm ▸ List.Sublist.refl _)
  | setOperator connective => exact ⟨h.groupIds_nodup, h.rowIds_nodup⟩
  | clear => exact ⟨List.nodup_nil, List.nodup_nil⟩

/-! ## Sessions -/

/-- **A session keeps ids distinct.** -/
theorem editedBy (h : f.HasDistinctIds) {edits : List Edit} (hedits : f.AllFresh edits) :
    (f.editedBy edits).HasDistinctIds := by
  induction edits generalizing f with
  | nil => exact h
  | cons e rest ih => exact ih (h.edited hedits.1) hedits.2

/-- **Removing a group that is there cuts out this group**, without a note. -/
theorem exists_without_removeGroup (h : f.HasDistinctIds) {id : String} (hid : id ∈ f.groupIds) :
    (f.removeGroup id).notes = [] ∧ (f.removeGroup id).value.connective = f.connective ∧
      ∃ cut : Group, cut.id = id ∧
        Group.Without cut f.groups (f.removeGroup id).value.groups := by
  rw [Filter.removeGroup]
  cases hdrop : Group.dropGroupIn? id f.groups with
  | none => exact absurd hid (Group.dropGroupIn?_eq_none_iff.1 hdrop)
  | some left => exact ⟨rfl, rfl, Group.without_of_dropGroupIn? h.groupIds_nodup hdrop⟩

end HasDistinctIds

/-- **Sessions keep ids distinct, and groups are removed exactly.**  In a session that starts from
distinct ids and brings only new ones, ids stay distinct.  The removal of a group that is there then
leaves no note and cuts out this group with all that is in it: the filter keeps its connective and
all other groups, these keep their ids, connectives, rows and order, and the rows of the group are a
stretch of all rows that is left out. -/
theorem removeGroup_editedBy {f : Filter} {edits : List Edit} (hids : f.HasDistinctIds)
    (hedits : f.AllFresh edits) :
    (f.editedBy edits).HasDistinctIds ∧
      ∀ id ∈ (f.editedBy edits).groupIds,
        ((f.editedBy edits).removeGroup id).notes = [] ∧
        ∃ left, ((f.editedBy edits).removeGroup id).value = ⟨left, (f.editedBy edits).connective⟩ ∧
          ∃ cut : Group, cut.id = id ∧ Group.Without cut (f.editedBy edits).groups left ∧
            (∃ before after,
              Group.nodesOf (f.editedBy edits).groups = before ++ cut.nodes ++ after ∧
              Group.nodesOf left = before ++ after) ∧
            ∃ before after, (f.editedBy edits).rows = before ++ cut.rows ++ after ∧
              Filter.rows ⟨left, (f.editedBy edits).connective⟩ = before ++ after := by
  have hdistinct := hids.editedBy hedits
  refine ⟨hdistinct, fun id hid => ?_⟩
  obtain ⟨hnotes, hconnective, cut, hcut, hwithout⟩ := hdistinct.exists_without_removeGroup hid
  refine ⟨hnotes, ((f.editedBy edits).removeGroup id).value.groups, ?_, cut, hcut, hwithout,
    hwithout.exists_nodesOf, hwithout.exists_rowsOf⟩
  rw [← hconnective]

/-- A group is added below another one, with a group in it.  When the inner one loses its last row
it is gone, and its id is used again. -/
theorem removeGroup_editedBy_nested :
    ∃ (f : Filter) (edits : List Edit),
      f.HasDistinctIds ∧ f.AllFresh edits ∧
      (f.editedBy edits).groupIds = ["g1", "g2", "g3", "g5", "g4"] ∧
      (f.editedBy edits).rowIds = ["c1", "c2", "c3", "c5"] ∧
      (f.editedBy edits).HasDistinctIds ∧
      ((f.editedBy edits).removeGroup "g3").notes = [] ∧
      ∃ left, ((f.editedBy edits).removeGroup "g3").value =
          ⟨left, (f.editedBy edits).connective⟩ ∧
        ∃ cut : Group, cut.id = "g3" ∧ Group.Without cut (f.editedBy edits).groups left ∧
          (∃ before after,
            Group.nodesOf (f.editedBy edits).groups = before ++ cut.nodes ++ after ∧
            Group.nodesOf left = before ++ after) ∧
          ∃ before after, (f.editedBy edits).rows = before ++ cut.rows ++ after ∧
            Filter.rows ⟨left, (f.editedBy edits).connective⟩ = before ++ after := by
  let f : Filter := ⟨[⟨"g1", .all, [.blank "c1"], [⟨"g2", .any, [.blank "c2"], []⟩]⟩], .all⟩
  let edits : List Edit :=
    [.addGroup ⟨"g3", .all, [.blank "c3"], [⟨"g4", .any, [.blank "c4"], []⟩]⟩ (some "g2"),
      .addCondition "g4" (.blank "c5"), .removeCondition "c4", .removeCondition "c5",
      .toggleGroupOperator "g3", .addGroup ⟨"g5", .any, [.blank "c5"], []⟩ (some "g3"),
      .updateCondition ⟨"c1", "name", .known .isEmpty, .nothing⟩,
      .addGroup ⟨"g4", .all, [], []⟩ none]
  have hids : f.HasDistinctIds := ⟨by decide, by decide⟩
  have hedits : f.AllFresh edits := by
    refine ⟨?_, ?_, ?_, ?_, ?_, ?_, ?_, ?_, trivial⟩
    all_goals exact ⟨by decide, by decide, by decide, by decide⟩
  obtain ⟨hdistinct, hremove⟩ := removeGroup_editedBy hids hedits
  exact ⟨f, edits, hids, hedits, by decide, by decide, hdistinct, hremove "g3" (by decide)⟩

end Filter
end RecordFilter
