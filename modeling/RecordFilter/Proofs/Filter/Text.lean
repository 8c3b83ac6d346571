import RecordFilter.Proofs.Filter.RoundTrip
import RecordFilter.Proofs.Json.Depth

/-!
# Filters as texts

A filter is saved as a text and loaded from it.  What is loaded is what was saved, unless the text
is nested too deep to be read: groups stand in groups, two steps of the text for one of the tree.

* `Condition.outline_covers`, `Group.outline_covers`, `Filter.outline_covers` — all that is stored
  is asked for.
* `Condition.IsBuilt` — rows that have been loaded, or made blank and edited.
* `Filter.ofText?_text_toJson`, `SavedFilter.ofText?_text_toJson` — a filter with canonical rows
  from its text.
* `SavedFilter.ofText?_text_of_isBuilt` — the same for all rows that can be made.
* `SavedFilter.not_ofText?_text_of_sixty_three` — and it is not true of all filters that can be
  made.
-/

set_option autoImplicit false

namespace RecordFilter

/-! ## What is asked for -/

theorem lookup_map_whole {names : List String} {name : String} (h : name ∈ names) :
    (names.map fun name => (name, Outline.whole)).lookup name = some .whole := by
  induction names with
  | nil => cases h
  | cons first rest ih =>
    rw [List.map_cons, List.lookup_cons]
    by_cases hfirst : name = first
    · rw [hfirst, beq_self_eq_true]
    · rw [beq_false_of_ne hfirst]
      exact ih ((List.mem_cons.1 h).resolve_left hfirst)

/-- A record of which every member is asked for as a whole is covered. -/
theorem Outline.covers_record_whole (enclosing : List (String × Outline)) {names : List String}
    {members : List (String × Json)} (h : ∀ member ∈ members, member.1 ∈ names) :
    (Outline.record (names.map fun name => (name, .whole))).Covers enclosing (.object members) := by
  refine .record enclosing (fun member hmember => ?_) fun member hmember outline houtline => ?_
  · rw [lookup_map_whole (h member hmember)]
    rfl
  · rw [lookup_map_whole (h member hmember)] at houtline
    obtain rfl := Option.some.inj houtline
    exact .whole _ member.2

/-- All that is stored of a row is asked for. -/
theorem Condition.outline_covers (enclosing : List (String × Outline)) (c : Condition) :
    outline.Covers enclosing c.toJson := by
  have hown : ∀ member ∈ c.ownMembers, member.1 ∈ memberNames := by
    simp [ownMembers, memberNames]
  have hslots : ∀ member ∈ c.argument.slots, member.1 ∈ memberNames := by
    rcases c.argument with _ | value | ⟨lower | lower, upper | upper⟩ | key <;>
      simp [memberNames, Argument.slots, Literal.slot]
  exact Outline.covers_record_whole enclosing (List.forall_mem_append.2 ⟨hown, hslots⟩)

namespace Group

/-- The members of a group that are asked for. -/
def asked : List (String × Outline) :=
  [("id", .whole), ("logicalOperator", .whole), ("conditions", .list Condition.outline),
    ("groups", .list .nested)]

theorem covers_own_members (id : String) (connective : Connective) (conditions : List Condition) :
    ∀ member ∈ ownMembers id connective conditions, ∃ outline,
      asked.lookup member.1 = some outline ∧ outline.Covers asked member.2 := by
  simp only [ownMembers, List.forall_mem_cons]
  refine ⟨⟨.whole, rfl, .whole _ _⟩, ⟨.whole, rfl, .whole _ _⟩, ⟨_, rfl, .list ?_⟩,
    List.forall_mem_nil _⟩
  intro j hj
  obtain ⟨c, -, rfl⟩ := List.mem_map.1 hj
  exact c.outline_covers asked

theorem covers_of_members {members : List (String × Json)}
    (h : ∀ member ∈ members, ∃ outline,
      asked.lookup member.1 = some outline ∧ outline.Covers asked member.2) :
    Outline.Covers asked .nested (.object members) := by
  refine .nested (fun member hmember => ?_) fun member hmember outline houtline => ?_
  · obtain ⟨outline, houtline, -⟩ := h member hmember
    rw [houtline]
    rfl
  · obtain ⟨found, hfound, hcovers⟩ := h member hmember
    obtain rfl := Option.some.inj (hfound.symm.trans houtline)
    exact hcovers

mutual

/-- All that is stored of a group in a group is asked for. -/
theorem nested_covers : ∀ g : Group, Outline.Covers asked .nested g.toJson
  | ⟨id, connective, conditions, []⟩ =>
    covers_of_members (covers_own_members id connective conditions)
  | ⟨id, connective, conditions, g :: rest⟩ => by
    refine covers_of_members (List.forall_mem_append.2
      ⟨covers_own_members id connective conditions, List.forall_mem_singleton.2 ?_⟩)
    exact ⟨.list .nested, rfl, .list (nested_covers_items (g :: rest))⟩

theorem nested_covers_items : ∀ groups : List Group,
    ∀ j ∈ toItems groups, Outline.Covers asked .nested j
  | [] => List.forall_mem_nil _
  | g :: rest => List.forall_mem_cons.2 ⟨nested_covers g, nested_covers_items rest⟩

end

/-- All that is stored of a group is asked for. -/
theorem outline_covers (enclosing : List (String × Outline)) (g : Group) :
    outline.Covers enclosing g.toJson := by
  have h := nested_covers g
  obtain ⟨id, connective, conditions, groups⟩ := g
  cases h with
  | nested hnames hmembers => exact .record enclosing hnames hmembers
  | atom _ _ _ hmembers => exact absurd rfl (hmembers _)

end Group

theorem Group.covers_items (enclosing : List (String × Outline)) : ∀ groups : List Group,
    ∀ j ∈ toItems groups, outline.Covers enclosing j
  | [] => List.forall_mem_nil _
  | g :: rest => List.forall_mem_cons.2 ⟨g.outline_covers enclosing, covers_items enclosing rest⟩

/-- All that is stored of a filter is asked for. -/
theorem Filter.outline_covers (f : Filter) : outline.Covers [] f.toJson := by
  refine .record [] ?_ ?_
  · intro member hmember
    simp only [List.mem_cons, List.not_mem_nil, or_false] at hmember
    rcases hmember with rfl | rfl <;> rfl
  · intro member hmember outline houtline
    simp only [List.mem_cons, List.not_mem_nil, or_false] at hmember
    rcases hmember with rfl | rfl
    · obtain rfl := Option.some.inj houtline
      exact .list (Group.covers_items _ f.groups)
    · obtain rfl := Option.some.inj houtline
      exact .whole _ _

/-! ## Filters from their texts -/

/-- Whether the doubles in a value are read back. -/
def Json.DoublesAreReadBack (j : Json) : Prop :=
  ∀ x, .double x ∈ j.numbers → (Number.double x).IsReadBack

theorem Json.DoublesAreReadBack.isReadBack {j : Json} (h : j.DoublesAreReadBack) :
    ∀ n ∈ j.numbers, n.IsReadBack := by
  intro n hn
  cases n with
  | integer n fits => exact Number.isReadBack_integer fits
  | double x => exact h x hn

section

variable {f : Filter} (hrows : ∀ c ∈ f.rows, c.IsCanonical)
  (hdoubles : f.toJson.DoublesAreReadBack)
include hrows hdoubles

/-- **A filter comes back from its text exactly if it is not nested too deep.** -/
theorem Filter.ofText?_text_toJson :
    ofText? f.toJson.text = if f.toJson.depth ≤ nestingLimit then some f else none := by
  rw [ofText?, Outline.ofText?_text f.outline_covers hdoubles.isReadBack]
  by_cases hdepth : f.toJson.depth ≤ nestingLimit
  · rw [if_pos hdepth, if_pos hdepth, Option.bind_some, ofJson?_toJson_iff.2 hrows]
  · rw [if_neg hdepth, if_neg hdepth, Option.bind_none]

/-- **So does the filter of a view**, as a whole filter. -/
theorem SavedFilter.ofText?_text_toJson :
    ofText? f.toJson.text =
      if f.toJson.depth ≤ nestingLimit then some (.advanced f) else none := by
  have hloaded : ofJson? (advanced f).toJson = some (.advanced f) := ofJson?_toJson_iff.2 hrows
  rw [ofText?, Json.ofText?, Outline.ofText?_text (.whole [] f.toJson) hdoubles.isReadBack]
  by_cases hdepth : f.toJson.depth ≤ nestingLimit
  · rw [if_pos hdepth, if_pos hdepth, Option.bind_some]
    exact hloaded
  · rw [if_neg hdepth, if_neg hdepth, Option.bind_none]

end

/-! ## How deep the text of a filter is nested -/

namespace Group

mutual

/-- How many groups stand inside one another in a group, itself counted. -/
def levels : Group → Nat
  | ⟨_, _, _, groups⟩ => levelsOf groups + 1

/-- The most levels that one of these groups has. -/
def levelsOf : List Group → Nat
  | [] => 0
  | g :: rest => max (levels g) (levelsOf rest)

end

theorem depth_toJson (id : String) (connective : Connective) (conditions : List Condition)
    (groups : List Group) :
    (toJson ⟨id, connective, conditions, groups⟩).depth =
      max (Json.itemDepth (conditions.map Condition.toJson))
        (if groups.isEmpty then 0 else Json.itemDepth (toItems groups)) + 2 := by
  cases groups with
  | nil => simp [toJson, Json.depth, Json.memberDepth]
  | cons g rest => simp [toJson, Json.depth, Json.memberDepth]

mutual

/-- Each level of groups is an object, and a list in it. -/
theorem two_mul_levels_le_depth : ∀ g : Group, 2 * g.levels ≤ g.toJson.depth
  | ⟨id, connective, conditions, []⟩ => by
    rw [depth_toJson, levels, levelsOf]
    omega
  | ⟨id, connective, conditions, g :: rest⟩ => by
    have hrest := two_mul_levelsOf_le_depth (g :: rest)
    rw [depth_toJson, levels, List.isEmpty_cons, if_neg Bool.false_ne_true]
    omega

theorem two_mul_levelsOf_le_depth : ∀ groups : List Group,
    2 * levelsOf groups ≤ Json.itemDepth (toItems groups)
  | [] => Nat.le_refl 0
  | g :: rest => by
    have hg := two_mul_levels_le_depth g
    have hrest := two_mul_levelsOf_le_depth rest
    rw [levelsOf, toItems, Json.itemDepth]
    omega

end

theorem itemDepth_map_toJson_le {conditions : List Condition} {deepest : Nat}
    (h : ∀ c ∈ conditions, c.toJson.depth ≤ deepest) :
    Json.itemDepth (conditions.map Condition.toJson) ≤ deepest := by
  induction conditions with
  | nil => exact Nat.zero_le deepest
  | cons c rest ih =>
    obtain ⟨hc, hrest⟩ := List.forall_mem_cons.1 h
    rw [List.map_cons, Json.itemDepth]
    exact Nat.max_le.2 ⟨hc, ih hrest⟩

mutual

/-- Nothing else is nested, apart from the rows. -/
theorem depth_le_two_mul_levels {deepest : Nat} : ∀ g : Group,
    (∀ c ∈ g.rows, c.toJson.depth ≤ deepest) → g.toJson.depth ≤ 2 * g.levels + deepest
  | ⟨id, connective, conditions, groups⟩, h => by
    rw [rows, List.forall_mem_append] at h
    have hown := itemDepth_map_toJson_le h.1
    have hbelow := depth_le_two_mul_levelsOf groups h.2
    rw [depth_toJson, levels]
    split <;> omega

theorem depth_le_two_mul_levelsOf {deepest : Nat} : ∀ groups : List Group,
    (∀ c ∈ rowsOf groups, c.toJson.depth ≤ deepest) →
      Json.itemDepth (toItems groups) ≤ 2 * levelsOf groups + deepest
  | [], _ => Nat.zero_le _
  | g :: rest, h => by
    rw [rowsOf, List.forall_mem_append] at h
    have hg := depth_le_two_mul_levels g h.1
    have hrest := depth_le_two_mul_levelsOf rest h.2
    rw [toItems, Json.itemDepth, levelsOf]
    omega

end

end Group

namespace Filter

theorem depth_toJson (f : Filter) :
    f.toJson.depth = Json.itemDepth (Group.toItems f.groups) + 2 := by
  simp [toJson, Json.depth, Json.memberDepth]

/-- Two steps of the text for each level of groups are too many from a certain level on. -/
theorem two_mul_levelsOf_le_depth (f : Filter) :
    2 * Group.levelsOf f.groups + 2 ≤ f.toJson.depth := by
  rw [depth_toJson]
  exact Nat.add_le_add_right (Group.two_mul_levelsOf_le_depth f.groups) 2

theorem depth_le_two_mul_levelsOf (f : Filter) {deepest : Nat}
    (h : ∀ c ∈ f.rows, c.toJson.depth ≤ deepest) :
    f.toJson.depth ≤ 2 * Group.levelsOf f.groups + deepest + 2 := by
  rw [depth_toJson]
  exact Nat.add_le_add_right (Group.depth_le_two_mul_levelsOf f.groups h) 2

end Filter

/-! ## Rows that can be made -/

/-- Whether a row can be made: loaded, or made blank, and edited with operators that keys name. -/
inductive Condition.IsBuilt : Condition → Prop
  | loaded {j : Json} {c : Condition} (h : ofJson? j = some c) : IsBuilt c
  | blank (id : String) : IsBuilt (.blank id)
  | edited {c : Condition} (h : IsBuilt c) (e : Edit)
      (he : ∀ operator, e = .operator operator → ∃ key, operator = .ofKey key) :
      IsBuilt (c.edited e)

theorem Condition.IsBuilt.isCanonical {c : Condition} (h : c.IsBuilt) : c.IsCanonical := by
  induction h with
  | loaded h => exact isCanonical_of_ofJson? h
  | blank id => exact isCanonical_blank id
  | edited _ e he ih => exact ih.edited he

namespace SavedFilter

/-- **A saved filter is loaded again exactly if its text is not nested too deep.**  For every filter
whose rows can be made, with groups and lists nested to any depth and any characters in its texts,
and whose doubles are read back, both ways to load it give it back up to the limit of the text, and
refuse it beyond.  The text is nested two steps for each level of groups, two for the filter itself,
and at most as deep as a row below that. -/
theorem ofText?_text_of_isBuilt {f : Filter} (hrows : ∀ c ∈ f.rows, c.IsBuilt)
    (hdoubles : f.toJson.DoublesAreReadBack) :
    Filter.ofText? f.toJson.text = (if f.toJson.depth ≤ nestingLimit then some f else none) ∧
      ofText? f.toJson.text =
        (if f.toJson.depth ≤ nestingLimit then some (.advanced f) else none) ∧
      2 * Group.levelsOf f.groups + 2 ≤ f.toJson.depth ∧
      ∀ deepest, (∀ c ∈ f.rows, c.toJson.depth ≤ deepest) →
        f.toJson.depth ≤ 2 * Group.levelsOf f.groups + deepest + 2 := by
  have hcanonical : ∀ c ∈ f.rows, c.IsCanonical := fun c hc => (hrows c hc).isCanonical
  exact ⟨Filter.ofText?_text_toJson hcanonical hdoubles, ofText?_text_toJson hcanonical hdoubles,
    f.two_mul_levelsOf_le_depth, fun _ => f.depth_le_two_mul_levelsOf⟩

/-- Groups that stand inside one another, `n` of them around one that has these rows. -/
def tower (rows : List Condition) : Nat → Group
  | 0 => ⟨"g", .all, rows, []⟩
  | n + 1 => ⟨"g", .all, [], [tower rows n]⟩

section

variable (rows : List Condition) (n : Nat)

theorem levels_tower : (tower rows n).levels = n + 1 := by
  induction n with
  | zero => rfl
  | succ n ih => rw [tower, Group.levels, Group.levelsOf, ih, Group.levelsOf, Nat.max_zero]

theorem rows_tower : (tower rows n).rows = rows := by
  induction n with
  | zero => exact List.append_nil rows
  | succ n ih => rw [tower, Group.rows, Group.rowsOf, ih, Group.rowsOf, List.append_nil,
      List.nil_append]

theorem depth_tower :
    (tower rows n).toJson.depth = 2 * n + Json.itemDepth (rows.map Condition.toJson) + 2 := by
  induction n with
  | zero => simp [tower, Group.depth_toJson]
  | succ n ih =>
    rw [tower, Group.depth_toJson, List.isEmpty_cons, if_neg Bool.false_ne_true, Group.toItems,
      Json.itemDepth, ih, Group.toItems, Json.itemDepth, List.map_nil, Json.itemDepth]
    omega

theorem numbers_tower :
    (tower rows n).toJson.numbers = Json.itemNumbers (rows.map Condition.toJson) := by
  induction n with
  | zero => simp [tower, Group.toJson, Json.numbers, Json.memberNumbers]
  | succ n ih =>
    simp [tower, Group.toJson, Group.toItems, Json.numbers, Json.memberNumbers, Json.itemNumbers,
      ih]

/-- A filter with a single tower of groups. -/
def ofTower : Filter := ⟨[tower rows n], .all⟩

theorem levelsOf_ofTower : Group.levelsOf (ofTower rows n).groups = n + 1 := by
  rw [ofTower, Group.levelsOf, levels_tower, Group.levelsOf, Nat.max_zero]

theorem rows_ofTower : (ofTower rows n).rows = rows := by
  rw [ofTower, Filter.rows, Group.rowsOf, rows_tower, Group.rowsOf, List.append_nil]

theorem depth_ofTower : (ofTower rows n).toJson.depth =
    2 * n + Json.itemDepth (rows.map Condition.toJson) + 4 := by
  rw [Filter.depth_toJson, ofTower, Group.toItems, Json.itemDepth, depth_tower, Group.toItems,
    Json.itemDepth, Nat.max_zero]

theorem numbers_ofTower :
    (ofTower rows n).toJson.numbers = Json.itemNumbers (rows.map Condition.toJson) := by
  simp [ofTower, Filter.toJson, Group.toItems, Json.numbers, Json.memberNumbers, Json.itemNumbers,
    numbers_tower]

end

/-- At the limit: sixty-one groups inside one another, and in the innermost one a row with a double
and a text with a control character and a quotation mark, in a list in a list. -/
theorem ofText?_text_of_sixty_one :
    ∃ f : Filter, Group.levelsOf f.groups = 61 ∧ f.toJson.depth = nestingLimit ∧
      f.toJson.numbers ≠ [] ∧ (∀ c ∈ f.rows, c.IsBuilt) ∧ f.toJson.DoublesAreReadBack ∧
      Filter.ofText? f.toJson.text = some f ∧ ofText? f.toJson.text = some (.advanced f) := by
  let half : Json.Number := .double ⟨false, 1022 * 4503599627370496, by decide⟩
  let c : Condition := ((Condition.blank "c").edited (.operator (.ofKey " in "))).edited
    (.value (.list [.list [.number half, .text "\u0001\""]]))
  have hbuilt : c.IsBuilt := by
    refine .edited (.edited (.blank "c") _ fun operator h => ?_) _ fun operator h => ?_
    · exact ⟨" in ", (Condition.Edit.operator.inj h).symm⟩
    · cases h
  have hrows : ∀ row ∈ (ofTower [c] 60).rows, row.IsBuilt := by
    rw [rows_ofTower]
    exact List.forall_mem_singleton.2 hbuilt
  have hnumbers : (ofTower [c] 60).toJson.numbers = [half] := by
    rw [numbers_ofTower]
    rfl
  have hdoubles : (ofTower [c] 60).toJson.DoublesAreReadBack := by
    intro x hx
    rw [hnumbers, List.mem_singleton] at hx
    rw [hx]
    decide +kernel
  have hdepth : (ofTower [c] 60).toJson.depth = nestingLimit := by
    rw [depth_ofTower]
    rfl
  obtain ⟨hfilter, hsaved, -⟩ := ofText?_text_of_isBuilt hrows hdoubles
  rw [if_pos (Nat.le_of_eq hdepth)] at hfilter hsaved
  exact ⟨ofTower [c] 60, levelsOf_ofTower [c] 60, hdepth, hnumbers ▸ List.cons_ne_nil _ _, hrows,
    hdoubles, hfilter, hsaved⟩

/-- Sixty-three groups inside one another are stored as a value that can be loaded, and as a text
that cannot. -/
theorem not_ofText?_text_of_sixty_three :
    ∃ f : Filter, Group.levelsOf f.groups = 63 ∧ (∀ c ∈ f.rows, c.IsBuilt) ∧
      f.toJson.DoublesAreReadBack ∧ Filter.ofJson? f.toJson = some f ∧
      Filter.ofText? f.toJson.text = none ∧ ofText? f.toJson.text = none := by
  let c : Condition := ⟨"c", "status", .known .isEmpty, .nothing⟩
  have hc : c.IsCanonical := ⟨Operator.ofKey_key_known .isEmpty, .fits rfl⟩
  have hrows : ∀ row ∈ (ofTower [c] 62).rows, row.IsCanonical := by
    rw [rows_ofTower]
    exact List.forall_mem_singleton.2 hc
  have hbuilt : ∀ row ∈ (ofTower [c] 62).rows, row.IsBuilt := fun row hrow =>
    .loaded (Condition.ofJson?_toJson_iff.2 (hrows row hrow))
  have hdoubles : (ofTower [c] 62).toJson.DoublesAreReadBack := by
    intro x hx
    rw [numbers_ofTower] at hx
    cases hx
  have hdepth : ¬ (ofTower [c] 62).toJson.depth ≤ nestingLimit := by
    rw [depth_ofTower]
    decide
  refine ⟨ofTower [c] 62, levelsOf_ofTower [c] 62, hbuilt, hdoubles,
    Filter.ofJson?_toJson_iff.2 hrows, ?_, ?_⟩
  · rw [Filter.ofText?_text_toJson hrows hdoubles, if_neg hdepth]
  · rw [ofText?_text_toJson hrows hdoubles, if_neg hdepth]

end SavedFilter
end RecordFilter
