import RecordFilter.Proofs.Filter.Session
import RecordFilter.Proofs.Filter.Turning
import RecordFilter.Proofs.Filter.Vacancy

/-!
# Edits that may change places

Two edits that are made for different rows or groups do the same in either order.  This holds even
where one removal takes a group along that another one would have taken.

* `Group.bind_remaining?`, `Group.withoutRow_comm` — what two removals of rows leave, and that their
  order does not matter.
* `Group.replacedIn` — replacing the first row with an id, as a function on all trees;
  `Group.replaced_comm`, `Group.withoutRowIn_replacedIn` and `Group.replaced_turned` for the other
  edits that it goes past.
* `Filter.Commutes` — two edits of a filter do the same in either order.
* `Filter.commutes_edits` — which edits do.
-/

set_option autoImplicit false

namespace RecordFilter
namespace Group

/-! ## Removals of rows -/

section

variable {a b : String}

theorem holdsRow_of_holdsRow_withoutRow {g : Group} (h : (g.withoutRow a).holdsRow b = true) :
    g.holdsRow b = true := by
  obtain ⟨c, hc, hid⟩ := holdsRow_iff.1 h
  rw [rows_withoutRow] at hc
  exact holdsRow_iff.2 ⟨c, (List.mem_filter.1 hc).1, hid⟩

/-- **What is left of a group after two removals.**  It goes if it had a row with one of the ids and
is empty in the end, whichever removal it was that emptied it. -/
theorem bind_remaining? (a b : String) (g : Group) :
    (remaining? a g).bind (remaining? b) =
      if (g.holdsRow a || g.holdsRow b) && ((g.withoutRow a).withoutRow b).isEmpty then none
      else some ((g.withoutRow a).withoutRow b) := by
  by_cases hb : (g.withoutRow a).holdsRow b = true
  · -- the first removal leaves such a row, so the group stays until the second one
    have hfull : (g.withoutRow a).isEmpty = false :=
      Bool.eq_false_iff.2 fun h => not_holdsRow_of_isEmpty h hb
    have hleft : remaining? a g = some (g.withoutRow a) := by
      rw [remaining?, hfull, Bool.and_false, if_neg Bool.false_ne_true]
    rw [hleft, Option.bind_some, remaining?_of_holdsRow hb, holdsRow_of_holdsRow_withoutRow hb,
      Bool.or_true, Bool.true_and]
  · rw [withoutRow_eq_self hb]
    by_cases ha : g.holdsRow a = true
    · rw [remaining?_of_holdsRow ha, ha, Bool.true_or, Bool.true_and]
      by_cases hempty : (g.withoutRow a).isEmpty = true
      · rw [if_pos hempty, Option.bind_none]
      · rw [if_neg hempty, Option.bind_some, remaining?_of_not_holdsRow hb]
    · have hsame := withoutRow_eq_self ha
      rw [hsame] at hb
      rw [remaining?_of_not_holdsRow ha, Option.bind_some, remaining?_of_not_holdsRow hb, hsame,
        Bool.eq_false_iff.2 ha, Bool.eq_false_iff.2 hb, Bool.or_self, Bool.false_and,
        if_neg Bool.false_ne_true]

mutual

/-- **Rows are removed in either order.** -/
theorem withoutRow_comm (a b : String) : ∀ g : Group,
    (g.withoutRow a).withoutRow b = (g.withoutRow b).withoutRow a
  | ⟨own, connective, conditions, groups⟩ => by
    have hconditions : ((conditions.filter fun c => c.id != a).filter fun c => c.id != b) =
        (conditions.filter fun c => c.id != b).filter fun c => c.id != a :=
      List.filter_comm ..
    simp only [withoutRow, hconditions, withoutRowIn_comm a b groups]

theorem withoutRowIn_comm (a b : String) : ∀ groups : List Group,
    withoutRowIn b (withoutRowIn a groups) = withoutRowIn a (withoutRowIn b groups)
  | [] => rfl
  | g :: rest => by
    have hg : (remaining? a g).bind (remaining? b) = (remaining? b g).bind (remaining? a) := by
      rw [bind_remaining?, bind_remaining?, withoutRow_comm a b g, Bool.or_comm]
    have hrest := withoutRowIn_comm a b rest
    simp only [withoutRowIn_eq_filterMap, List.filterMap_filterMap] at hrest ⊢
    rw [List.filterMap_cons, List.filterMap_cons, hg, hrest]

end

/-- Removing the same rows again changes nothing. -/
theorem withoutRowIn_withoutRowIn (a : String) (groups : List Group) :
    withoutRowIn a (withoutRowIn a groups) = withoutRowIn a groups := by
  refine withoutRowIn_eq_self (not_anyHoldsRow_iff.2 fun c hc => ?_)
  rw [rowsOf_withoutRowIn] at hc
  exact bne_iff_ne.1 (List.mem_filter.1 hc).2

end

/-! ## Replacing rows -/

section

variable {c d : Condition}

/-- These rows with the first one that has the id of the new one replaced by it, if there is one. -/
def replacedRow (new : Condition) : List Condition → List Condition
  | [] => []
  | c :: rest => if c.id = new.id then new :: rest else c :: replacedRow new rest

mutual

/-- A group with the first row that has the id of the new one replaced by it, if there is one. -/
def replaced (new : Condition) : Group → Group
  | ⟨id, connective, conditions, groups⟩ =>
    if conditions.any fun c => c.id == new.id then
      ⟨id, connective, replacedRow new conditions, groups⟩
    else ⟨id, connective, conditions, replacedIn new groups⟩

/-- These groups with the first row that has the id of the new one replaced by it, if there is one.
-/
def replacedIn (new : Condition) : List Group → List Group
  | [] => []
  | g :: rest =>
    if g.holdsRow new.id then replaced new g :: rest else g :: replacedIn new rest

end

theorem replaceRow?_eq (new : Condition) (conditions : List Condition) :
    replaceRow? new conditions =
      if conditions.any fun c => c.id == new.id then some (replacedRow new conditions)
      else none := by
  induction conditions with
  | nil => rfl
  | cons c rest ih =>
    rw [replaceRow?, replacedRow, List.any_cons, ih]
    by_cases hid : c.id = new.id
    · rw [if_pos hid, if_pos hid, beq_iff_eq.2 hid, Bool.true_or, if_pos rfl]
    · rw [if_neg hid, if_neg hid, beq_eq_false_iff_ne.2 hid, Bool.false_or]
      split <;> rfl

mutual

theorem replaceFirst?_eq (new : Condition) : ∀ g : Group,
    replaceFirst? new g = if g.holdsRow new.id then some (replaced new g) else none
  | ⟨id, connective, conditions, groups⟩ => by
    rw [replaceFirst?, replaceRow?_eq, holdsRow, replaced, replaceFirstIn?_eq new groups]
    by_cases hown : (conditions.any fun c => c.id == new.id) = true
    · rw [if_pos hown, hown, Bool.true_or, if_pos rfl, if_pos rfl]
    · rw [if_neg hown, if_neg hown, Bool.eq_false_iff.2 hown, Bool.false_or]
      dsimp only
      split <;> rfl

/-- **Replacing a row fails exactly where there is none with its id.** -/
theorem replaceFirstIn?_eq (new : Condition) : ∀ groups : List Group,
    replaceFirstIn? new groups =
      if anyHoldsRow new.id groups then some (replacedIn new groups) else none
  | [] => rfl
  | g :: rest => by
    rw [replaceFirstIn?, replaceFirst?_eq new g, anyHoldsRow, replacedIn,
      replaceFirstIn?_eq new rest]
    by_cases hg : g.holdsRow new.id = true
    · rw [if_pos hg, hg, Bool.true_or, if_pos rfl, if_pos rfl]
    · rw [if_neg hg, if_neg hg, Bool.eq_false_iff.2 hg, Bool.false_or]
      dsimp only
      split <;> rfl

end

theorem replacedIn_eq_self {new : Condition} {groups : List Group}
    (h : ¬ anyHoldsRow new.id groups = true) : replacedIn new groups = groups := by
  induction groups with
  | nil => rfl
  | cons g rest ih =>
    rw [anyHoldsRow, Bool.or_eq_true, not_or] at h
    rw [replacedIn, if_neg h.1, ih h.2]

/-- Replacing a row by the editor, which changes nothing where it fails. -/
theorem getD_replaceFirstIn? (new : Condition) (groups : List Group) :
    (replaceFirstIn? new groups).getD groups = replacedIn new groups := by
  rw [replaceFirstIn?_eq]
  by_cases hrow : anyHoldsRow new.id groups = true
  · rw [if_pos hrow, Option.getD_some]
  · rw [if_neg hrow, Option.getD_none, replacedIn_eq_self hrow]

/-- **The first row with the id, at its place.** -/
theorem replacedIn_fill {new old : Condition} {p : Place} {own : String} {connective : Connective}
    {before after : List Condition} {groups : List Group} (hold : old.id = new.id)
    (hfirst : ∀ r ∈ p.earlier.flatMap Group.conditions ++ before, r.id ≠ new.id) :
    replacedIn new (p.fill ⟨own, connective, before ++ old :: after, groups⟩) =
      p.fill ⟨own, connective, before ++ new :: after, groups⟩ := by
  rw [← getD_replaceFirstIn?, replaceFirstIn?_fill rfl hold hfirst, Option.getD_some]

theorem idsOf_replacedIn (new : Condition) (groups : List Group) :
    idsOf (replacedIn new groups) = idsOf groups := by
  rw [← getD_replaceFirstIn?]
  cases hleft : replaceFirstIn? new groups with
  | none => rfl
  | some left => exact (idsOf_replaceFirstIn? hleft).1

theorem any_replacedRow (id : String) (new : Condition) (conditions : List Condition) :
    ((replacedRow new conditions).any fun c => c.id == id) =
      conditions.any fun c => c.id == id := by
  induction conditions with
  | nil => rfl
  | cons c rest ih =>
    rw [replacedRow]
    split
    case isTrue hid => rw [List.any_cons, List.any_cons, hid]
    case isFalse => rw [List.any_cons, List.any_cons, ih]

mutual

/-- Replacing a row leaves the ids of all rows where they are. -/
theorem holdsRow_replaced (id : String) (new : Condition) : ∀ g : Group,
    (replaced new g).holdsRow id = g.holdsRow id
  | ⟨_, _, conditions, groups⟩ => by
    rw [replaced]
    split
    · rw [holdsRow, holdsRow, any_replacedRow]
    · rw [holdsRow, holdsRow, anyHoldsRow_replacedIn id new groups]

theorem anyHoldsRow_replacedIn (id : String) (new : Condition) : ∀ groups : List Group,
    anyHoldsRow id (replacedIn new groups) = anyHoldsRow id groups
  | [] => rfl
  | g :: rest => by
    rw [replacedIn]
    split
    · rw [anyHoldsRow, anyHoldsRow, holdsRow_replaced id new g]
    · rw [anyHoldsRow, anyHoldsRow, anyHoldsRow_replacedIn id new rest]

end

theorem replacedRow_comm (h : c.id ≠ d.id) (conditions : List Condition) :
    replacedRow c (replacedRow d conditions) = replacedRow d (replacedRow c conditions) := by
  induction conditions with
  | nil => rfl
  | cons r rest ih =>
    by_cases hc : r.id = c.id
    · have hd : r.id ≠ d.id := hc ▸ h
      rw [replacedRow, if_neg hd, replacedRow, if_pos hc, replacedRow, if_pos hc, replacedRow,
        if_neg h]
    · by_cases hd : r.id = d.id
      · rw [replacedRow, if_pos hd, replacedRow, if_neg h.symm, replacedRow, if_neg hc,
          replacedRow, if_pos hd]
      · rw [replacedRow, if_neg hd, replacedRow, if_neg hc, replacedRow, if_neg hc, replacedRow,
          if_neg hd, ih]

mutual

/-- **Rows with different ids are replaced in either order.** -/
theorem replaced_comm (h : c.id ≠ d.id) : ∀ g : Group,
    replaced c (replaced d g) = replaced d (replaced c g)
  | ⟨id, connective, conditions, groups⟩ => by
    have hgroups := replacedIn_comm h groups
    by_cases hc : (conditions.any fun r => r.id == c.id) = true
    · by_cases hd : (conditions.any fun r => r.id == d.id) = true
      · simp only [replaced, if_pos hc, if_pos hd, any_replacedRow, replacedRow_comm h]
      · simp only [replaced, if_pos hc, if_neg hd, any_replacedRow]
    · by_cases hd : (conditions.any fun r => r.id == d.id) = true
      · simp only [replaced, if_neg hc, if_pos hd, any_replacedRow]
      · simp only [replaced, if_neg hc, if_neg hd, hgroups]

theorem replacedIn_comm (h : c.id ≠ d.id) : ∀ groups : List Group,
    replacedIn c (replacedIn d groups) = replacedIn d (replacedIn c groups)
  | [] => rfl
  | g :: rest => by
    have hg := replaced_comm h g
    have hrest := replacedIn_comm h rest
    by_cases hc : g.holdsRow c.id = true
    · by_cases hd : g.holdsRow d.id = true
      · simp only [replacedIn, if_pos hc, if_pos hd, holdsRow_replaced, hg]
      · simp only [replacedIn, if_pos hc, if_neg hd, holdsRow_replaced]
    · by_cases hd : g.holdsRow d.id = true
      · simp only [replacedIn, if_neg hc, if_pos hd, holdsRow_replaced]
      · simp only [replacedIn, if_neg hc, if_neg hd, hrest]

end

end

/-! ## Removals around a row -/

section

variable {a : String} {c : Condition} {p : Place} {own : String} {connective : Connective}
  {before after : List Condition} {groups : List Group}

/-- A group with a row that stays, at a place in what is left. -/
theorem filterMap_remaining?_fill_of_row (hrow : c.id ≠ a) :
    (p.fill ⟨own, connective, before ++ c :: after, groups⟩).filterMap (remaining? a) =
      (p.withoutRow a).fill
        ⟨own, connective, (before.filter fun r => r.id != a) ++ c :: after.filter fun r => r.id != a,
          groups.filterMap (remaining? a)⟩ := by
  have hstays : ((c :: after).filter fun r => r.id != a) = c :: after.filter fun r => r.id != a :=
    List.filter_cons_of_pos (bne_iff_ne.2 hrow)
  have hrows : ((before ++ c :: after).filter fun r => r.id != a) =
      (before.filter fun r => r.id != a) ++ c :: after.filter fun r => r.id != a := by
    rw [List.filter_append, hstays]
  refine Place.filterMap_remaining?_fill_of_some ?_
  rw [remaining?_of_ne_nil (Or.inl ?_), withoutRow_eq, hrows]
  rw [hrows]
  exact List.append_ne_nil_of_right_ne_nil _ (List.cons_ne_nil c _)

/-- **A row may be replaced before or after others are removed.** -/
theorem withoutRowIn_replacedIn (h : c.id ≠ a) (groups : List Group) :
    withoutRowIn a (replacedIn c groups) = replacedIn c (withoutRowIn a groups) := by
  by_cases hrow : ∃ r ∈ rowsOf groups, r.id = c.id
  · obtain ⟨p, ⟨own, connective, conditions, below⟩, before, old, after, rfl, hg, hold, hfirst⟩ :=
      exists_place_of_mem_rowsOf hrow
    obtain rfl : conditions = before ++ old :: after := hg
    -- the row stays at its place, and it stays the first one with its id
    have hold' : old.id ≠ a := hold ▸ h
    have hfirst' : ∀ r ∈ (p.withoutRow a).earlier.flatMap Group.conditions ++
        before.filter (fun r => r.id != a), r.id ≠ c.id := by
      rw [p.flatMap_earlier_withoutRow, ← List.filter_append]
      exact fun r hr => hfirst r (List.mem_filter.1 hr).1
    simp only [withoutRowIn_eq_filterMap]
    rw [replacedIn_fill hold hfirst, filterMap_remaining?_fill_of_row h,
      filterMap_remaining?_fill_of_row hold', replacedIn_fill hold hfirst']
  · have hnone : ∀ r ∈ rowsOf groups, r.id ≠ c.id := fun r hr hid => hrow ⟨r, hr, hid⟩
    have hleft : ∀ r ∈ rowsOf (withoutRowIn a groups), r.id ≠ c.id := by
      rw [rowsOf_withoutRowIn]
      exact fun r hr => hnone r (List.mem_filter.1 hr).1
    rw [replacedIn_eq_self (not_anyHoldsRow_iff.2 hnone),
      replacedIn_eq_self (not_anyHoldsRow_iff.2 hleft)]

end

/-! ## New rows and connectives -/

mutual

/-- **Connectives and new rows.** -/
theorem replaced_turned (new : Condition) (id : String) (turn : Connective → Connective) :
    ∀ g : Group, replaced new (turned id turn g) = turned id turn (replaced new g)
  | ⟨own, connective, conditions, groups⟩ => by
    rw [turned, replaced, replaced, replacedIn_turnedIn new id turn groups]
    split <;> rw [turned]

theorem replacedIn_turnedIn (new : Condition) (id : String) (turn : Connective → Connective) :
    ∀ groups : List Group,
      replacedIn new (turnedIn id turn groups) = turnedIn id turn (replacedIn new groups)
  | [] => rfl
  | g :: rest => by
    rw [turnedIn, replacedIn, replacedIn, holdsRow_turned, replaced_turned new id turn g,
      replacedIn_turnedIn new id turn rest]
    split <;> rw [turnedIn]

end

end Group

/-! ## The edits of a filter -/

namespace Filter

variable {f : Filter}

/-- Whether two edits of a filter do the same in either order. -/
def Commutes (f : Filter) (e e' : Edit) : Prop := (f.edited e).edited e' = (f.edited e').edited e

/-- Whether an edit sets or toggles the connective of the group with this id. -/
inductive Edit.Turns (group : String) : Edit → Prop
  | set (connective : Connective) : Turns group (.setGroupOperator group connective)
  | toggle : Turns group (.toggleGroupOperator group)

theorem value_withGroups (f : Filter) (groups : Option (List Group)) (note : String) :
    (f.withGroups groups note).value = ⟨groups.getD f.groups, f.connective⟩ := by
  cases groups <;> rfl

theorem edited_removeCondition (f : Filter) (id : String) :
    f.edited (.removeCondition id) = ⟨Group.withoutRowIn id f.groups, f.connective⟩ :=
  value_removeCondition f id

theorem edited_updateCondition (f : Filter) (c : Condition) :
    f.edited (.updateCondition c) = ⟨Group.replacedIn c f.groups, f.connective⟩ := by
  rw [edited, updateCondition, value_withGroups, Group.getD_replaceFirstIn?]

/-- **Setting or toggling the connective of a group changes all groups with this id**, where no two
groups have the same one. -/
theorem Edit.Turns.exists_turn {group : String} {e : Edit} (he : e.Turns group) :
    ∃ turn : Connective → Connective, ∀ f : Filter, f.groupIds.Nodup →
      f.edited e = ⟨Group.turnedIn group turn f.groups, f.connective⟩ := by
  cases he with
  | set connective =>
    refine ⟨fun _ => connective, fun f hnodup => ?_⟩
    rw [edited, Filter.setGroupOperator, value_withGroups,
      Group.getD_updateFirstIn?_turn (fun _ => connective) hnodup]
  | toggle =>
    refine ⟨Connective.toggled, fun f hnodup => ?_⟩
    rw [edited, Filter.toggleGroupOperator, value_withGroups,
      Group.getD_updateFirstIn?_turn Connective.toggled hnodup]

/-- **Edits of different rows and groups commute.**  Removals of rows do, also of rows that stand in
one group, which may be the last ones in it; and removing the same rows again changes nothing.  New
rows for rows with different ids do, and a new row and the removal of rows with another id.  Where no
two groups have the same id, setting or toggling the connective of any group commutes with the
removal of rows, with a new row, and with setting or toggling that of another group.  The ids of rows
may occur any number of times. -/
theorem commutes_edits (f : Filter) :
    (∀ id id' : String, f.Commutes (.removeCondition id) (.removeCondition id')) ∧
    (∀ id : String, (f.edited (.removeCondition id)).edited (.removeCondition id) =
      f.edited (.removeCondition id)) ∧
    (∀ c c' : Condition, c.id ≠ c'.id → f.Commutes (.updateCondition c) (.updateCondition c')) ∧
    (∀ (id : String) (c : Condition), c.id ≠ id →
      f.Commutes (.removeCondition id) (.updateCondition c)) ∧
    (f.groupIds.Nodup → ∀ (group : String) (e : Edit), e.Turns group →
      (∀ id : String, f.Commutes e (.removeCondition id)) ∧
      (∀ c : Condition, f.Commutes e (.updateCondition c)) ∧
      ∀ (group' : String) (e' : Edit), e'.Turns group' → group ≠ group' → f.Commutes e e') := by
  refine ⟨fun id id' => ?_, fun id => ?_, fun c c' h => ?_,
    fun id c h => ?_, fun hnodup group e he => ?_⟩
  · simp only [Commutes, edited_removeCondition, Group.withoutRowIn_comm id id']
  · simp only [edited_removeCondition, Group.withoutRowIn_withoutRowIn]
  · simp only [Commutes, edited_updateCondition, Group.replacedIn_comm h]
  · simp only [Commutes, edited_removeCondition, edited_updateCondition,
      Group.withoutRowIn_replacedIn h]
  · obtain ⟨turn, hturn⟩ := he.exists_turn
    refine ⟨fun id => ?_, fun c => ?_, fun group' e' he' h => ?_⟩
    · have hleft : (f.edited (.removeCondition id)).groupIds.Nodup := by
        rw [edited_removeCondition]
        exact hnodup.sublist (Group.idsOf_withoutRowIn f.groups)
      rw [Commutes, hturn f hnodup, hturn _ hleft, edited_removeCondition, edited_removeCondition,
        Group.withoutRowIn_turnedIn]
    · have hleft : (f.edited (.updateCondition c)).groupIds.Nodup := by
        rw [edited_updateCondition, groupIds, Group.idsOf_replacedIn]
        exact hnodup
      rw [Commutes, hturn f hnodup, hturn _ hleft, edited_updateCondition, edited_updateCondition,
        Group.replacedIn_turnedIn]
    · obtain ⟨turn', hturn'⟩ := he'.exists_turn
      have hleft : (f.edited e).groupIds.Nodup := by
        rw [hturn f hnodup, groupIds, Group.idsOf_turnedIn]
        exact hnodup
      have hleft' : (f.edited e').groupIds.Nodup := by
        rw [hturn' f hnodup, groupIds, Group.idsOf_turnedIn]
        exact hnodup
      rw [Commutes, hturn' _ hleft, hturn _ hleft', hturn f hnodup, hturn' f hnodup,
        Group.turnedIn_comm h]

/-- A group with two rows inside of another one, and a group with one of these rows again and an
empty group. -/
def withRepeatedRows : Filter :=
  ⟨[⟨"a", .all, [], [⟨"b", .any, [.blank "1", .blank "2"], []⟩]⟩,
    ⟨"c", .all, [.blank "1"], [⟨"d", .any, [], []⟩]⟩], .any⟩

/-- Two rows of a group are removed, in either order, and with them the group and the one around it.
One of them is removed and the other one replaced, or both are replaced; and the connective of the
group is set while its rows are removed or replaced, or that of another group is toggled. -/
theorem commutes_edits_withRepeatedRows :
    (withRepeatedRows.edited (.removeCondition "1")).edited (.removeCondition "2") =
      ⟨[⟨"c", .all, [], [⟨"d", .any, [], []⟩]⟩], .any⟩ ∧
    (withRepeatedRows.edited (.removeCondition "2")).edited (.removeCondition "1") =
      ⟨[⟨"c", .all, [], [⟨"d", .any, [], []⟩]⟩], .any⟩ ∧
    withRepeatedRows.Commutes (.updateCondition ⟨"1", "name", .blank, .nothing⟩)
      (.updateCondition ⟨"2", "name", .blank, .nothing⟩) ∧
    withRepeatedRows.Commutes (.removeCondition "2")
      (.updateCondition ⟨"1", "name", .blank, .nothing⟩) ∧
    withRepeatedRows.Commutes (.setGroupOperator "b" .all) (.removeCondition "2") ∧
    withRepeatedRows.Commutes (.setGroupOperator "b" .all)
      (.updateCondition ⟨"1", "name", .blank, .nothing⟩) ∧
    withRepeatedRows.Commutes (.setGroupOperator "b" .all) (.toggleGroupOperator "c") := by
  obtain ⟨hremovals, -, hupdates, hboth, hgroups⟩ := commutes_edits withRepeatedRows
  have hleft : (withRepeatedRows.edited (.removeCondition "1")).edited (.removeCondition "2") =
      ⟨[⟨"c", .all, [], [⟨"d", .any, [], []⟩]⟩], .any⟩ := rfl
  obtain ⟨hremoval, hupdate, hother⟩ := hgroups (by decide) "b" _ (.set .all)
  exact ⟨hleft, (hremovals "1" "2").symm.trans hleft, hupdates _ _ (by decide),
    hboth _ _ (by decide), hremoval _, hupdate _, hother "c" _ .toggle (by decide)⟩

end Filter
end RecordFilter
