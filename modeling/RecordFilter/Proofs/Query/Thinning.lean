import RecordFilter.Proofs.Fault
import RecordFilter.Proofs.Query.Join

/-!
# Taking out what constrains nothing

Rows and groups that constrain nothing can be taken out of a filter, anywhere and in any selection,
and its query stays the same tree.

* `Condition.Thinned`, `Group.Thinned`, `Filter.Thinned` — a list, a group or a filter from which
  rows and groups that constrain nothing have been taken out; everything else stays in its order.
* `Group.value_query_of_thinned` — such a group has the same query.
* `Group.thinned_prunedOf` — pruning takes out nothing else.
* `Filter.query_of_thinned` — the two together, for whole filters.
-/

set_option autoImplicit false

namespace RecordFilter

/-! ## Thinned trees -/

/-- The second list is the first one without some of the rows that constrain nothing. -/
inductive Condition.Thinned (settings : Settings) (base : String) :
    List Condition → List Condition → Prop
  | nil : Condition.Thinned settings base [] []
  | drop {c : Condition} {rest left : List Condition}
      (hc : c.ConstrainsNothing settings base) (h : Condition.Thinned settings base rest left) :
      Condition.Thinned settings base (c :: rest) left
  | keep (c : Condition) {rest left : List Condition}
      (h : Condition.Thinned settings base rest left) :
      Condition.Thinned settings base (c :: rest) (c :: left)

mutual

/-- The second group is the first one without some of the rows and groups that constrain nothing, at
any depth below it. -/
inductive Group.Thinned (settings : Settings) (base : String) : Group → Group → Prop
  | group (id : String) (connective : Connective) {conditions kept : List Condition}
      {groups below : List Group} (hc : Condition.Thinned settings base conditions kept)
      (hg : Group.AllThinned settings base groups below) :
      Group.Thinned settings base ⟨id, connective, conditions, groups⟩ ⟨id, connective, kept, below⟩

/-- The second list is the first one without some of the groups that constrain nothing, and with the
others thinned. -/
inductive Group.AllThinned (settings : Settings) (base : String) : List Group → List Group → Prop
  | nil : Group.AllThinned settings base [] []
  | drop {g : Group} {rest left : List Group} (hg : g.ConstrainsNothing settings base)
      (h : Group.AllThinned settings base rest left) :
      Group.AllThinned settings base (g :: rest) left
  | keep {g kept : Group} {rest left : List Group} (hg : Group.Thinned settings base g kept)
      (h : Group.AllThinned settings base rest left) :
      Group.AllThinned settings base (g :: rest) (kept :: left)

end

/-- The second filter is the first one without some of the rows and groups that constrain nothing,
at any depth. -/
structure Filter.Thinned (settings : Settings) (f left : Filter) : Prop where
  connective : left.connective = f.connective
  groups : Group.AllThinned settings settings.options.fieldBase f.groups left.groups

/-! ## Queries without what constrains nothing

A group only sees which queries of its parts constrain something, so the queries of a list are
compared by `Noted.constraining`. -/

/-- Of the queries of a list, those that constrain something. -/
def Noted.constraining (found : Noted (List Query)) : List Query := Query.constraining found.value

section

variable {settings : Settings} {base : String}

theorem Condition.constraining_queries_cons (c : Condition) (rest : List Condition) :
    (Condition.queries settings base (c :: rest)).map Noted.constraining =
      (do
        let q ← (c.query settings base).map Noted.value
        let others ← (Condition.queries settings base rest).map Noted.constraining
        return Query.constraining [q] ++ others) :=
  OffCalendar.map_both fun first others =>
    Query.constraining_append [first.value] others.value

theorem Group.constraining_queries_cons (g : Group) (rest : List Group) :
    (Group.queries settings base (g :: rest)).map Noted.constraining =
      (do
        let q ← (g.query settings base).map Noted.value
        let others ← (Group.queries settings base rest).map Noted.constraining
        return Query.constraining [q] ++ others) := by
  rw [Group.queries]
  exact OffCalendar.map_both fun first others =>
    Query.constraining_append [first.value] others.value

/-- The query of a group depends only on which queries of its parts constrain something. -/
theorem Group.value_query (id : String) (connective : Connective) (conditions : List Condition)
    (groups : List Group) :
    (Group.query settings base ⟨id, connective, conditions, groups⟩).map Noted.value =
      (do
        let own ← (Condition.queries settings base conditions).map Noted.constraining
        let nested ← (Group.queries settings base groups).map Noted.constraining
        return Query.join connective (own ++ nested)) := by
  rw [Group.query]
  refine OffCalendar.map_both fun own nested => Query.join_congr connective ?_
  rw [Query.constraining_append, Query.constraining_append, Noted.constraining, Noted.constraining,
    Query.constraining_constraining, Query.constraining_constraining]

theorem Filter.value_query (f : Filter) :
    (f.query settings).map Noted.value =
      ((Group.queries settings settings.options.fieldBase f.groups).map Noted.constraining).map
        (Query.join f.connective) := by
  rw [Filter.query]
  cases Group.queries settings settings.options.fieldBase f.groups with
  | error fault => rfl
  | ok parts =>
    refine congrArg Except.ok (Query.join_congr f.connective ?_)
    exact (Query.constraining_constraining parts.value).symm

/-- A query that constrains nothing does not show among those that do. -/
theorem constraining_everything_both (others : Except OffCalendar (List Query)) :
    (do
      let q ← Except.ok Query.everything
      let others ← others
      return Query.constraining [q] ++ others) = others := by
  cases others <;> rfl

/-! ## Thinning keeps queries -/

theorem Condition.constraining_queries_of_thinned {conditions kept : List Condition}
    (h : Condition.Thinned settings base conditions kept) :
    (Condition.queries settings base kept).map Noted.constraining =
      (Condition.queries settings base conditions).map Noted.constraining := by
  induction h with
  | nil => rfl
  | drop hc _ ih => rw [constraining_queries_cons, hc, constraining_everything_both, ih]
  | keep c _ ih => rw [constraining_queries_cons, constraining_queries_cons, ih]

namespace Group

mutual

/-- **A thinned group has the same query.** -/
theorem value_query_of_thinned : ∀ {g left : Group}, Thinned settings base g left →
    (left.query settings base).map Noted.value = (g.query settings base).map Noted.value
  | _, _, .group id connective hc hg => by
    rw [value_query, value_query, Condition.constraining_queries_of_thinned hc,
      constraining_queries_of_thinned hg]

/-- Thinned groups have the same queries, up to those that constrain nothing. -/
theorem constraining_queries_of_thinned : ∀ {groups left : List Group},
    AllThinned settings base groups left →
    (queries settings base left).map Noted.constraining =
      (queries settings base groups).map Noted.constraining
  | _, _, .nil => rfl
  | _, _, .drop hg h => by
    rw [constraining_queries_cons, hg, constraining_everything_both,
      constraining_queries_of_thinned h]
  | _, _, .keep hg h => by
    rw [constraining_queries_cons, constraining_queries_cons, value_query_of_thinned hg,
      constraining_queries_of_thinned h]

end

/-! ## Pruning is thinning -/

theorem constrainsNothing_of_empty (id : String) (connective : Connective) :
    ConstrainsNothing settings base ⟨id, connective, [], []⟩ := rfl

end Group

theorem Condition.constrainsNothing_of_isBlank {c : Condition} (h : c.isBlank = true) :
    c.ConstrainsNothing settings base := by
  rw [ConstrainsNothing, query, h, Bool.true_or, if_pos rfl]
  rfl

theorem Condition.thinned_filter (conditions : List Condition) :
    Condition.Thinned settings base conditions (conditions.filter fun c => !c.isBlank) := by
  induction conditions with
  | nil => exact .nil
  | cons c rest ih =>
    rw [List.filter_cons]
    cases hc : c.isBlank with
    | true => exact .drop (constrainsNothing_of_isBlank hc) ih
    | false => exact .keep c ih

namespace Group

mutual

/-- What is left of a group after pruning is a thinned group, and a group of which nothing is left
constrains nothing. -/
theorem thinned_pruned : ∀ g : Group,
    (∀ left, g.pruned? = some left → Thinned settings base g left) ∧
      (g.pruned? = none → g.ConstrainsNothing settings base)
  | ⟨id, connective, conditions, groups⟩ => by
    have h : Thinned settings base ⟨id, connective, conditions, groups⟩
        ⟨id, connective, conditions.filter fun c => !c.isBlank, prunedOf groups⟩ :=
      .group id connective (Condition.thinned_filter conditions) (thinned_prunedOf groups)
    rw [pruned?]
    split
    · rename_i hempty
      rw [Bool.and_eq_true, List.isEmpty_iff, List.isEmpty_iff] at hempty
      rw [hempty.1, hempty.2] at h
      refine ⟨nofun, fun _ => ?_⟩
      rw [ConstrainsNothing, ← value_query_of_thinned h]
      exact constrainsNothing_of_empty id connective
    · exact ⟨fun left hleft => Option.some.inj hleft ▸ h, nofun⟩

/-- Pruned groups are thinned groups. -/
theorem thinned_prunedOf : ∀ groups : List Group, AllThinned settings base groups (prunedOf groups)
  | [] => .nil
  | g :: rest => by
    rw [prunedOf]
    cases hg : g.pruned? with
    | none => exact .drop ((thinned_pruned g).2 hg) (thinned_prunedOf rest)
    | some left => exact .keep ((thinned_pruned g).1 left hg) (thinned_prunedOf rest)

end

/-! ## Nothing is left of what is not active -/

theorem isEmpty_filter_not_isBlank (conditions : List Condition) :
    (conditions.filter fun c => !c.isBlank).isEmpty = !conditions.any fun c => !c.isBlank := by
  induction conditions with
  | nil => rfl
  | cons c rest ih =>
    rw [List.filter_cons, List.any_cons]
    cases c.isBlank with
    | true => exact ih
    | false => rfl

mutual

theorem isNone_pruned? : ∀ g : Group, g.pruned?.isNone = !g.isActive
  | ⟨id, connective, conditions, groups⟩ => by
    rw [pruned?, isActive, Bool.not_or, ← isEmpty_filter_not_isBlank, ← isEmpty_prunedOf groups]
    split <;> simp_all

theorem isEmpty_prunedOf : ∀ groups : List Group, (prunedOf groups).isEmpty = !anyActive groups
  | [] => rfl
  | g :: rest => by
    rw [prunedOf, anyActive, Bool.not_or, ← isNone_pruned? g, ← isEmpty_prunedOf rest]
    cases g.pruned? with
    | none => rfl
    | some left => rfl

end

end Group
end

/-! ## Whole filters -/

namespace Filter

variable {settings : Settings} {f left : Filter}

theorem value_query_of_thinned (h : f.Thinned settings left) :
    (left.query settings).map Noted.value = (f.query settings).map Noted.value := by
  rw [value_query, value_query, Group.constraining_queries_of_thinned h.groups, h.connective]

theorem thinned_prunedOf (settings : Settings) (f : Filter) :
    f.Thinned settings ⟨Group.prunedOf f.groups, f.connective⟩ :=
  ⟨rfl, Group.thinned_prunedOf f.groups⟩

theorem pruned?_eq_some (h : f.pruned? = some left) :
    left = ⟨Group.prunedOf f.groups, f.connective⟩ := by
  rw [pruned?] at h
  split at h
  · exact nomatch h
  · exact (Option.some.inj h).symm

theorem prunedOf_eq_nil (h : f.pruned? = none) : Group.prunedOf f.groups = [] := by
  rw [pruned?] at h
  split at h
  · exact List.isEmpty_iff.1 ‹_›
  · exact nomatch h

/-- **Rows and groups that constrain nothing can be taken out anywhere.**  The query of what is left
is the same tree, and there is a fault where there was one.  So a filter is compiled like what
pruning leaves of it, and one of which it leaves nothing is not active and constrains nothing. -/
theorem query_of_thinned (settings : Settings) (f : Filter) :
    (∀ left : Filter, f.Thinned settings left →
      (left.query settings).map Noted.value = (f.query settings).map Noted.value) ∧
    (∀ left : Filter, f.pruned? = some left →
      (left.query settings).map Noted.value = (f.query settings).map Noted.value) ∧
    (f.pruned? = none →
      f.isActive = false ∧ (f.query settings).map Noted.value = .ok .everything) := by
  have hpruned := value_query_of_thinned (thinned_prunedOf settings f)
  refine ⟨fun left h => value_query_of_thinned h, fun left h => ?_, fun h => ⟨?_, ?_⟩⟩
  · rw [pruned?_eq_some h, hpruned]
  · have hempty := Group.isEmpty_prunedOf f.groups
    rw [prunedOf_eq_nil h] at hempty
    simpa [isActive] using hempty.symm
  · rw [← hpruned, prunedOf_eq_nil h]
    rfl

/-- A group of a blank row goes, and so does a row whose operator is not known; what is left is the
test of the one row that has a meaning. -/
theorem query_of_thinned_to_one_row :
    (Filter.query .atEpoch
        ⟨[⟨"one", .any, [⟨"a", "done", .known .isTrue, .nothing⟩,
            ⟨"b", "done", .unknown "sounds_like", .nothing⟩],
            [⟨"two", .all, [.blank "c"], []⟩]⟩], .all⟩).map Noted.value =
      .ok (.field "done" (.equals (.bool true))) := by
  have hrow : Condition.ConstrainsNothing .atEpoch ""
      ⟨"b", "done", .unknown "sounds_like", .nothing⟩ := rfl
  have hgroup : Group.ConstrainsNothing .atEpoch "" ⟨"two", .all, [.blank "c"], []⟩ := rfl
  have hthinned : Filter.Thinned .atEpoch
      ⟨[⟨"one", .any, [⟨"a", "done", .known .isTrue, .nothing⟩,
          ⟨"b", "done", .unknown "sounds_like", .nothing⟩],
          [⟨"two", .all, [.blank "c"], []⟩]⟩], .all⟩
      ⟨[⟨"one", .any, [⟨"a", "done", .known .isTrue, .nothing⟩], []⟩], .all⟩ :=
    ⟨rfl, .keep (.group "one" .any (.keep _ (.drop hrow .nil)) (.drop hgroup .nil)) .nil⟩
  rw [← (query_of_thinned .atEpoch _).1 _ hthinned]
  rfl

end Filter
end RecordFilter
