import Mathlib.Logic.Relation
import RecordFilter.Proofs.Query.Fault
import RecordFilter.Proofs.Query.Saying

/-!
# Rearranging a filter

The order of groups and rows is for the eye, and so is a group of its own below a group with the same
connective.  A filter that is rearranged in these ways compiles when it compiled before, and accepts
the same records.

* `Group.Rearranged` — one change of what stands in a group: the order of its rows, the order of its
  groups, or one of its groups dissolved.
* `Filter.Rearranged` — such a change of any group of a filter, or of the order of its groups.  A
  filter is rearranged by any number of these changes, each forwards or backwards, so the relation
  of interest is the equivalence that they generate.
* `Filter.said_of_rearranged` — what one change keeps; `Filter.said_of_eqvGen` — what all of them do.
* `Filter.accepts_query_of_rearranged` — the same for queries.
-/

set_option autoImplicit false

namespace RecordFilter

namespace Group

/-! ## Changes of a group -/

/-- One change of what stands in a group: other order of its rows, other order of its groups, or a
group with the same connective dissolved.  The parts of what is dissolved may be put anywhere, since
their order may be changed next. -/
inductive Rearranged : Group → Group → Prop
  | conditions (id : String) (connective : Connective) (groups : List Group)
      {conditions conditions' : List Condition} (h : conditions.Perm conditions') :
      Rearranged ⟨id, connective, conditions, groups⟩ ⟨id, connective, conditions', groups⟩
  | groups (id : String) (connective : Connective) (conditions : List Condition)
      {groups groups' : List Group} (h : groups.Perm groups') :
      Rearranged ⟨id, connective, conditions, groups⟩ ⟨id, connective, conditions, groups'⟩
  | dissolved (id : String) (connective : Connective) (conditions : List Condition)
      (before : List Group) (inner : Group) (after : List Group)
      (h : inner.connective = connective) :
      Rearranged ⟨id, connective, conditions, before ++ inner :: after⟩
        ⟨id, connective, conditions ++ inner.conditions, before ++ inner.groups ++ after⟩

theorem rowsOf_perm {groups groups' : List Group} (h : groups.Perm groups') :
    (rowsOf groups).Perm (rowsOf groups') := by
  rw [rowsOf_eq_flatMap_rows, rowsOf_eq_flatMap_rows]
  exact h.flatMap_right rows

/-- A group that is rearranged has the same rows in another order. -/
theorem Rearranged.rows_perm {g new : Group} (h : g.Rearranged new) : g.rows.Perm new.rows := by
  cases h with
  | conditions id connective groups h => exact h.append_right (rowsOf groups)
  | groups id connective conditions h => exact (rowsOf_perm h).append_left conditions
  | dissolved id connective conditions before inner after h =>
    obtain ⟨_, _, own, below⟩ := inner
    simp only [rows, rowsOf_append, rowsOf, List.append_assoc]
    exact (List.perm_append_comm_assoc (rowsOf before) own _).append_left conditions

/-- **A group that is rearranged says the same.** -/
theorem Rearranged.said_eq {g new : Group} (h : g.Rearranged new)
    (row : Condition → Option Bool) : g.said row = new.said row := by
  cases h with
  | conditions id connective groups h =>
    rw [Group.said_eq, Group.said_eq]
    exact Connective.answer?_perm ((h.map row).append_right _)
  | groups id connective conditions h =>
    rw [Group.said_eq, Group.said_eq]
    exact Connective.answer?_perm ((h.map _).append_left _)
  | dissolved id connective conditions before inner after h =>
    obtain ⟨_, _, own, below⟩ := inner
    subst h
    simp only [Group.said_eq, List.map_append, List.map_cons]
    rw [← List.append_assoc, Connective.answer?_nested]
    refine Connective.answer?_perm ?_
    simp only [List.append_assoc]
    exact (List.perm_append_comm_assoc _ (own.map row) _).append_left _

end Group

namespace Filter

/-! ## Changes of a filter -/

/-- One change of a filter: other order of its groups, or a change of a group at any depth. -/
inductive Rearranged : Filter → Filter → Prop
  | groups (connective : Connective) {groups groups' : List Group} (h : groups.Perm groups') :
      Rearranged ⟨groups, connective⟩ ⟨groups', connective⟩
  | group (connective : Connective) {g new : Group} {groups left : List Group}
      (hg : g.Rearranged new) (h : Group.Exchanged g new groups left) :
      Rearranged ⟨groups, connective⟩ ⟨left, connective⟩

variable {f f' : Filter}

/-- **What one change keeps**: the rows but for their order, and what the filter says. -/
theorem said_of_rearranged (h : f.Rearranged f') :
    f.rows.Perm f'.rows ∧ ∀ row : Condition → Option Bool, f.said row = f'.said row := by
  cases h with
  | groups connective h =>
    exact ⟨Group.rowsOf_perm h, fun row => Connective.answer?_perm (h.map _)⟩
  | group connective hg h =>
    refine ⟨?_, fun row => rel_said Connective.carriesOver_eq connective h (hg.said_eq row)⟩
    obtain ⟨before, after, hgroups, hleft⟩ := h.exists_rowsOf
    rw [rows, rows, hgroups, hleft]
    exact (hg.rows_perm.append_left before).append_right after

/-- **What any number of changes keeps.** -/
theorem said_of_eqvGen (h : Relation.EqvGen Rearranged f f') :
    f.rows.Perm f'.rows ∧ ∀ row : Condition → Option Bool, f.said row = f'.said row := by
  induction h with
  | rel f f' h => exact said_of_rearranged h
  | refl f => exact ⟨List.Perm.refl f.rows, fun row => rfl⟩
  | symm f f' _ ih => exact ⟨ih.1.symm, fun row => (ih.2 row).symm⟩
  | trans f g f' _ _ ih ih' =>
    exact ⟨ih.1.trans ih'.1, fun row => (ih.2 row).trans (ih'.2 row)⟩

/-! ## Queries -/

/-- **A filter that is rearranged means the same.**  It compiles when it compiled before; it
constrains something when it did before; and it accepts the same records. -/
theorem accepts_query_of_rearranged (settings : Settings)
    (h : Relation.EqvGen Rearranged f f') :
    ((∃ found, f.query settings = .ok found) ↔ ∃ found, f'.query settings = .ok found) ∧
    ∀ found found' : Noted Query, f.query settings = .ok found → f'.query settings = .ok found' →
      (found.value = .everything ↔ found'.value = .everything) ∧
      ∀ record : Json, found.value.accepts record = found'.value.accepts record := by
  obtain ⟨hrows, hsaid⟩ := said_of_eqvGen h
  constructor
  · rw [OffCalendar.exists_ok_iff, OffCalendar.exists_ok_iff, query_eq_error_iff,
      query_eq_error_iff]
    simp only [hrows.mem_iff]
  · intro found found' hfound hfound'
    have hanswer : ∀ record, found.value.answer? record = found'.value.answer? record := by
      intro record
      rw [answer?_of_query record hfound, answer?_of_query record hfound', hsaid]
    constructor
    · rw [← @Query.answer?_eq_none_iff .null, hanswer, Query.answer?_eq_none_iff]
    · intro record
      rw [Query.accepts_eq_getD, hanswer, ← Query.accepts_eq_getD]

/-- A group is dissolved in the one that it stands in, the rows of that one are turned round, and
then the groups. -/
theorem accepts_query_of_rearranged_any :
    Relation.EqvGen Rearranged
      ⟨[⟨"a", .any, [⟨"1", "vip", .known .isTrue, .nothing⟩],
          [⟨"b", .any, [⟨"2", "new", .known .isTrue, .nothing⟩, .blank "3"], []⟩]⟩,
        ⟨"c", .all, [⟨"4", "paid", .known .isTrue, .nothing⟩], []⟩], .all⟩
      ⟨[⟨"c", .all, [⟨"4", "paid", .known .isTrue, .nothing⟩], []⟩,
        ⟨"a", .any, [.blank "3", ⟨"2", "new", .known .isTrue, .nothing⟩,
          ⟨"1", "vip", .known .isTrue, .nothing⟩], []⟩], .all⟩ ∧
    ∃ found found' : Noted Query,
      query .atEpoch
        ⟨[⟨"a", .any, [⟨"1", "vip", .known .isTrue, .nothing⟩],
            [⟨"b", .any, [⟨"2", "new", .known .isTrue, .nothing⟩, .blank "3"], []⟩]⟩,
          ⟨"c", .all, [⟨"4", "paid", .known .isTrue, .nothing⟩], []⟩], .all⟩ = .ok found ∧
      query .atEpoch
        ⟨[⟨"c", .all, [⟨"4", "paid", .known .isTrue, .nothing⟩], []⟩,
          ⟨"a", .any, [.blank "3", ⟨"2", "new", .known .isTrue, .nothing⟩,
            ⟨"1", "vip", .known .isTrue, .nothing⟩], []⟩], .all⟩ = .ok found' ∧
      ∀ record : Json, found.value.accepts record = found'.value.accepts record := by
  have h : Relation.EqvGen Rearranged _ _ :=
    .trans _ _ _
      (.rel _ _ (.group .all (.dissolved "a" .any [⟨"1", "vip", .known .isTrue, .nothing⟩] []
        ⟨"b", .any, [⟨"2", "new", .known .isTrue, .nothing⟩, .blank "3"], []⟩ [] rfl)
        (.among [] [⟨"c", .all, [⟨"4", "paid", .known .isTrue, .nothing⟩], []⟩])))
      (.trans _ _ _
        (.rel _ _ (.group .all (.conditions "a" .any [] (List.reverse_perm _).symm) (.among [] _)))
        (.rel _ _ (.groups .all (List.Perm.swap _ _ []))))
  obtain ⟨-, haccepts⟩ := accepts_query_of_rearranged .atEpoch h
  exact ⟨h, _, _, rfl, rfl, (haccepts _ _ rfl rfl).2⟩

end Filter
end RecordFilter
