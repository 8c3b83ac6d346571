import RecordFilter.Filter.Stored
import RecordFilter.Proofs.Condition.Canonical

/-!
# Storing and loading

Whatever is stored can be loaded again.  It comes back as it was, and what cannot come back as it
was is named: a row that is not canonical.

* `Literal.ofJson?_toJson` — values, lists in lists included.
* `Condition.reloaded`, `Group.reloaded`, `Filter.reloaded` — what rows, groups and filters come
  back as, by `Filter.ofJson?_toJson`.
* `Argument.ofSlots_slots`, `Condition.ofJson?_toJson_iff` — the values of a row from their slots,
  and rows.
* `Group.isCanonical_of_ofJson?` — groups at any depth.
* `Filter.ofJson?_toJson_iff`, `SavedFilter.ofJson?_toJson_iff` — whole filters, and the filters of
  views in either form.
* `SavedFilter.reload` — all of it, for rows that have been loaded, made or edited.
-/

set_option autoImplicit false

namespace RecordFilter

/-! ## Values -/

namespace Literal

mutual

theorem ofJson?_toJson : ∀ v : Literal, ofJson? v.toJson = some v
  | .bool _ => rfl
  | .number _ => rfl
  | .text _ => rfl
  | .list items => by rw [toJson, ofJson?, ofItems_toItems items]

theorem ofItems_toItems : ∀ items : List Literal, ofItems (toItems items) = items
  | [] => rfl
  | v :: rest => by
    rw [toItems, ofItems, ofJson?_toJson v]
    dsimp only
    rw [ofItems_toItems rest]

end

end Literal

/-! ## The slots of a row -/

namespace Argument

/-- Members in front of the slots make no difference if they do not have the names of slots. -/
theorem ofSlots_append {members : List (String × Json)}
    (h : ∀ name ∈ ["value", "valueFrom", "valueTo", "dateRelative"], members.lookup name = none)
    (slots : List (String × Json)) (operator : Operator) :
    ofSlots (members ++ slots) operator = ofSlots slots operator := by
  simp only [List.forall_mem_cons] at h
  obtain ⟨hvalue, hfrom, hto, hrelative, -⟩ := h
  have hslot : ∀ {name}, members.lookup name = none →
      (members ++ slots).lookup name = slots.lookup name := fun hname => by
    rw [List.lookup_append, hname, Option.none_or]
  simp only [ofSlots, ofFilledSlots, ofValueSlot, keySlot?, Literal.ofSlot?, hslot hvalue,
    hslot hfrom, hslot hto, hslot hrelative]

theorem ofValueSlot_slots_single (value : Literal) :
    ofValueSlot (single value).slots = single value := by
  have hslot : Literal.ofSlot? (single value).slots "value" = some value :=
    Literal.ofJson?_toJson value
  rw [ofValueSlot, hslot]

theorem ofSlot?_slots_range (lower upper : Option Literal) :
    Literal.ofSlot? (range lower upper).slots "valueFrom" = lower ∧
      Literal.ofSlot? (range lower upper).slots "valueTo" = upper := by
  constructor
  · cases lower with
    | some value => exact Literal.ofJson?_toJson value
    | none => cases upper <;> rfl
  · cases upper with
    | some value => cases lower <;> exact Literal.ofJson?_toJson value
    | none => cases lower <;> rfl

/-- The slot that is filled is found, unless none is. -/
theorem ofFilledSlots_slots {argument : Argument} (h : argument ≠ range none none) :
    ofFilledSlots argument.slots = argument := by
  cases argument with
  | nothing => rfl
  | relative key => rfl
  | single value => exact ofValueSlot_slots_single value
  | range lower upper =>
    have hkey : keySlot? (range lower upper).slots = none := by
      cases lower <;> cases upper <;> rfl
    obtain ⟨hlower, hupper⟩ := ofSlot?_slots_range lower upper
    rw [ofFilledSlots, hkey, hlower, hupper]
    cases lower with
    | some value => rfl
    | none =>
      cases upper with
      | some value => rfl
      | none => exact absurd rfl h

/-- **Canonical values come back from their slots.** -/
theorem ofSlots_slots {argument : Argument} {operator : Operator}
    (h : argument.IsCanonical operator) : ofSlots argument.slots operator = argument := by
  cases operator with
  | unknown key =>
    refine ofFilledSlots_slots ?_
    rintro rfl
    cases h with
    | fits h => cases h
    | missing hoperator => cases hoperator
    | kept _ h => exact h rfl
  | known verb =>
    rw [ofSlots]
    cases h with
    | kept hoperator => cases hoperator
    | missing hoperator hargument =>
      obtain rfl := hargument
      have harity : verb.arity = .single := hoperator
      rw [harity]
      rfl
    | fits h =>
      have harity : verb.arity = argument.arity := h.symm
      rw [harity]
      cases argument with
      | nothing => rfl
      | single value => exact ofValueSlot_slots_single value
      | relative key => rfl
      | range lower upper =>
        obtain ⟨hlower, hupper⟩ := ofSlot?_slots_range lower upper
        exact congrArg₂ range hlower hupper

end Argument

/-! ## Rows -/

namespace Condition

/-- The members of the stored form of a row, apart from its slots. -/
def ownMembers (c : Condition) : List (String × Json) :=
  [("id", .string c.id), ("field", .string c.field), ("operator", .string c.operator.key)]

/-- The stored form of a row is a record: no member has a name that another one has. -/
theorem record?_toJson (c : Condition) :
    c.toJson.record? memberNames = some (c.ownMembers ++ c.argument.slots) := by
  obtain ⟨id, field, operator, argument⟩ := c
  refine if_pos ?_
  rcases argument with _ | value | ⟨lower | lower, upper | upper⟩ | key <;> rfl

/-- What a row comes back as. -/
def reloaded (c : Condition) : Condition :=
  ⟨c.id, c.field, .ofKey c.operator.key, .ofSlots c.argument.slots (.ofKey c.operator.key)⟩

/-- A row that is stored can be loaded again. -/
theorem ofJson?_toJson (c : Condition) : ofJson? c.toJson = some c.reloaded := by
  rw [ofJson?, record?_toJson]
  show some (Condition.mk c.id c.field (.ofKey c.operator.key)
    (.ofSlots (c.ownMembers ++ c.argument.slots) (.ofKey c.operator.key))) = some c.reloaded
  rw [Argument.ofSlots_append (by simp [ownMembers]), reloaded]

theorem IsCanonical.reloaded_eq {c : Condition} (hc : c.IsCanonical) : c.reloaded = c := by
  rw [reloaded, hc.operator, Argument.ofSlots_slots hc.argument]

/-- **A row comes back exactly if it is canonical.** -/
theorem ofJson?_toJson_iff {c : Condition} : ofJson? c.toJson = some c ↔ c.IsCanonical := by
  refine ⟨isCanonical_of_ofJson?, fun hc => ?_⟩
  rw [ofJson?_toJson, hc.reloaded_eq]

theorem listOfJson?_map_toJson (conditions : List Condition) :
    listOfJson? (.array (conditions.map toJson)) = some (conditions.map reloaded) := by
  rw [listOfJson?]
  induction conditions with
  | nil => rfl
  | cons c rest ih =>
    rw [List.map_cons, List.mapM_cons, ofJson?_toJson, ih]
    rfl

theorem map_reloaded_of_isCanonical {conditions : List Condition}
    (h : ∀ c ∈ conditions, c.IsCanonical) : conditions.map reloaded = conditions :=
  (List.map_congr_left fun c hc => (h c hc).reloaded_eq).trans (List.map_id' conditions)

end Condition

/-! ## Groups -/

theorem Connective.ofKey_key (connective : Connective) : ofKey connective.key = connective := by
  cases connective <;> decide

namespace Group

/-- The members of the stored form of a group, apart from the groups in it. -/
def ownMembers (id : String) (connective : Connective) (conditions : List Condition) :
    List (String × Json) :=
  [("id", .string id), ("logicalOperator", .string connective.key),
    ("conditions", .array (conditions.map Condition.toJson))]

theorem ofMembers?_ownMembers (id : String) (connective : Connective) (conditions : List Condition)
    (others : List (String × Json)) (groups : List Group) :
    ofMembers? (ownMembers id connective conditions ++ others) groups =
      some ⟨id, connective, conditions.map .reloaded, groups⟩ := by
  have hconditions : conditionsMember? (ownMembers id connective conditions ++ others) =
      some (conditions.map .reloaded) := Condition.listOfJson?_map_toJson conditions
  rw [ofMembers?, hconditions]
  show some (Group.mk id (.ofKey connective.key) (conditions.map .reloaded) groups) = _
  rw [Connective.ofKey_key]

theorem ofJson?_object {members : List (String × Json)} {groups : List Group}
    (hrecord : (Json.object members).record? memberNames = some members)
    (hgroups : groupsMember? members = some groups) :
    ofJson? (.object members) = ofMembers? members groups := by
  rw [ofJson?, hrecord, hgroups]

mutual

/-- What a group comes back as: its rows may change, at every depth. -/
def reloaded : Group → Group
  | ⟨id, connective, conditions, groups⟩ =>
    ⟨id, connective, conditions.map .reloaded, reloadedOf groups⟩

/-- What these groups come back as. -/
def reloadedOf : List Group → List Group
  | [] => []
  | g :: rest => reloaded g :: reloadedOf rest

end

mutual

/-- A group that is stored can be loaded again, at any depth. -/
theorem ofJson?_toJson : ∀ g : Group, ofJson? g.toJson = some g.reloaded
  | ⟨id, connective, conditions, []⟩ =>
    (ofJson?_object rfl rfl).trans (ofMembers?_ownMembers id connective conditions [] [])
  | ⟨id, connective, conditions, g :: rest⟩ => by
    have hgroups : groupsMember? (ownMembers id connective conditions ++
        [("groups", .array (toItems (g :: rest)))]) = some (reloadedOf (g :: rest)) :=
      ofItems?_toItems (g :: rest)
    exact (ofJson?_object rfl hgroups).trans
      (ofMembers?_ownMembers id connective conditions _ (reloadedOf (g :: rest)))

theorem ofItems?_toItems : ∀ groups : List Group,
    ofItems? (toItems groups) = some (reloadedOf groups)
  | [] => rfl
  | g :: rest => by
    rw [toItems, ofItems?, ofJson?_toJson g, ofItems?_toItems rest, reloadedOf]

end

mutual

theorem reloaded_of_isCanonical : ∀ {g : Group}, (∀ c ∈ g.rows, c.IsCanonical) → g.reloaded = g
  | ⟨_, _, conditions, groups⟩, h => by
    rw [rows, List.forall_mem_append] at h
    rw [reloaded, Condition.map_reloaded_of_isCanonical h.1, reloadedOf_of_isCanonical h.2]

theorem reloadedOf_of_isCanonical : ∀ {groups : List Group},
    (∀ c ∈ rowsOf groups, c.IsCanonical) → reloadedOf groups = groups
  | [], _ => rfl
  | g :: rest, h => by
    rw [rowsOf, List.forall_mem_append] at h
    rw [reloadedOf, reloaded_of_isCanonical h.1, reloadedOf_of_isCanonical h.2]

end

mutual

theorem rows_reloaded : ∀ g : Group, g.reloaded.rows = g.rows.map .reloaded
  | ⟨_, _, conditions, groups⟩ => by
    rw [reloaded, rows, rows, rowsOf_reloadedOf groups, List.map_append]

theorem rowsOf_reloadedOf : ∀ groups : List Group,
    rowsOf (reloadedOf groups) = (rowsOf groups).map .reloaded
  | [] => rfl
  | g :: rest => by
    rw [reloadedOf, rowsOf, rowsOf, rows_reloaded g, rowsOf_reloadedOf rest, List.map_append]

end

theorem isCanonical_of_ofMembers? {members : List (String × Json)} {groups : List Group} {g : Group}
    (hgroups : ∀ c ∈ rowsOf groups, c.IsCanonical) (h : ofMembers? members groups = some g) :
    ∀ c ∈ g.rows, c.IsCanonical := by
  simp only [ofMembers?, Option.bind_eq_bind, Option.bind_eq_some_iff, Option.pure_def,
    Option.some.injEq] at h
  obtain ⟨id, -, key, -, conditions, hconditions, rfl⟩ := h
  rw [rows, List.forall_mem_append]
  refine ⟨?_, hgroups⟩
  rw [conditionsMember?] at hconditions
  cases hmember : members.lookup "conditions" with
  | none =>
    rw [hmember] at hconditions
    obtain rfl := Option.some.inj hconditions
    exact List.forall_mem_nil _
  | some j =>
    rw [hmember] at hconditions
    exact Condition.isCanonical_of_listOfJson? hconditions

mutual

/-- **The rows of a group that is loaded are canonical**, at any depth. -/
theorem isCanonical_of_ofJson? : ∀ {j : Json} {g : Group}, ofJson? j = some g →
    ∀ c ∈ g.rows, c.IsCanonical
  | .object members, g, h => by
    rw [ofJson?] at h
    split at h
    case h_1 hgroups => exact isCanonical_of_ofMembers? (isCanonical_of_groupsMember? hgroups) h
    case h_2 => exact nomatch h
  | .array items, g, h => by
    rw [ofJson?] at h
    split at h
    case h_1 hgroups => exact isCanonical_of_ofMembers? (isCanonical_of_fourthItem? hgroups) h
    case h_2 => exact nomatch h
  | .null, g, h | .bool _, g, h | .number _, g, h | .string _, g, h => by
    rw [ofJson?] at h
    · exact nomatch h
    all_goals exact nofun

theorem isCanonical_of_groupsMember? : ∀ {members : List (String × Json)} {groups : List Group},
    groupsMember? members = some groups → ∀ c ∈ rowsOf groups, c.IsCanonical
  | [], groups, h => by
    obtain rfl := Option.some.inj h
    exact List.forall_mem_nil _
  | (name, j) :: rest, groups, h => by
    rw [groupsMember?] at h
    split at h
    · exact isCanonical_of_listOfJson? h
    · exact isCanonical_of_groupsMember? h

theorem isCanonical_of_fourthItem? : ∀ {items : List Json} {groups : List Group},
    fourthItem? items = some groups → ∀ c ∈ rowsOf groups, c.IsCanonical
  | [_, _, _, j], groups, h => isCanonical_of_listOfJson? h
  | [], groups, h | [_], groups, h | [_, _], groups, h | [_, _, _], groups, h
  | _ :: _ :: _ :: _ :: _ :: _, groups, h => by
    obtain rfl := Option.some.inj h
    exact List.forall_mem_nil _

theorem isCanonical_of_listOfJson? : ∀ {j : Json} {groups : List Group},
    listOfJson? j = some groups → ∀ c ∈ rowsOf groups, c.IsCanonical
  | .array items, groups, h => isCanonical_of_ofItems? h
  | .null, g, h | .bool _, g, h | .number _, g, h | .string _, g, h | .object _, g, h => by
    rw [listOfJson?] at h
    · exact nomatch h
    all_goals exact nofun

theorem isCanonical_of_ofItems? : ∀ {items : List Json} {groups : List Group},
    ofItems? items = some groups → ∀ c ∈ rowsOf groups, c.IsCanonical
  | [], groups, h => by
    obtain rfl := Option.some.inj h
    exact List.forall_mem_nil _
  | j :: rest, groups, h => by
    rw [ofItems?] at h
    split at h
    case h_1 g others hfirst hrest =>
      obtain rfl := Option.some.inj h
      rw [rowsOf, List.forall_mem_append]
      exact ⟨isCanonical_of_ofJson? hfirst, isCanonical_of_ofItems? hrest⟩
    case h_2 => exact nomatch h

end

end Group

/-! ## Filters and the filters of views -/

namespace Filter

/-- The rows of a filter that is loaded are canonical. -/
theorem isCanonical_of_ofJson? {j : Json} {f : Filter} (h : ofJson? j = some f) :
    ∀ c ∈ f.rows, c.IsCanonical := by
  simp only [ofJson?, Option.bind_eq_bind, Option.bind_eq_some_iff, Option.pure_def] at h
  obtain ⟨members, -, h⟩ := h
  split at h
  case h_1 =>
    simp only [Option.bind_some, Option.bind_eq_some_iff, Option.some.injEq] at h
    obtain ⟨key, -, rfl⟩ := h
    exact List.forall_mem_nil _
  case h_2 =>
    simp only [Option.bind_eq_some_iff, Option.some.injEq] at h
    obtain ⟨groups, hgroups, key, -, rfl⟩ := h
    exact Group.isCanonical_of_listOfJson? hgroups

/-- What a filter comes back as. -/
def reloaded (f : Filter) : Filter := ⟨Group.reloadedOf f.groups, f.connective⟩

theorem rows_reloaded (f : Filter) : f.reloaded.rows = f.rows.map .reloaded :=
  Group.rowsOf_reloadedOf f.groups

/-- **A filter that is stored can be loaded again**, whatever its rows are. -/
theorem ofJson?_toJson (f : Filter) : ofJson? f.toJson = some f.reloaded := by
  have hgroups : Group.listOfJson? (.array (Group.toItems f.groups)) =
      some (Group.reloadedOf f.groups) := Group.ofItems?_toItems f.groups
  show ((Group.listOfJson? (.array (Group.toItems f.groups))).bind fun groups =>
    some (Filter.mk groups (.ofKey f.connective.key))) = some f.reloaded
  rw [hgroups, Connective.ofKey_key]
  rfl

/-- **A filter comes back exactly if its rows are canonical**, at any depth. -/
theorem ofJson?_toJson_iff {f : Filter} :
    ofJson? f.toJson = some f ↔ ∀ c ∈ f.rows, c.IsCanonical := by
  refine ⟨isCanonical_of_ofJson?, fun h => ?_⟩
  rw [ofJson?_toJson, reloaded, Group.reloadedOf_of_isCanonical h]

end Filter

namespace SavedFilter

/-- The rows of a view's filter that is loaded are canonical, in either form. -/
theorem isCanonical_of_ofJson? {j : Json} {saved : SavedFilter} (h : ofJson? j = some saved) :
    ∀ c ∈ saved.rows, c.IsCanonical := by
  rw [ofJson?] at h
  split at h
  case h_1 hrows =>
    obtain rfl := Option.some.inj h
    exact Condition.isCanonical_of_listOfJson? hrows
  case h_2 =>
    obtain ⟨f, hf, rfl⟩ := Option.map_eq_some_iff.1 h
    exact Filter.isCanonical_of_ofJson? hf

/-- **The filter of a view comes back, in the form that it had, exactly if its rows are
canonical.** -/
theorem ofJson?_toJson_iff {saved : SavedFilter} :
    ofJson? saved.toJson = some saved ↔ ∀ c ∈ saved.rows, c.IsCanonical := by
  refine ⟨isCanonical_of_ofJson?, fun h => ?_⟩
  cases saved with
  | simple conditions =>
    have hrows : Condition.listOfJson? (.array (conditions.map Condition.toJson)) =
        some (conditions.map .reloaded) := Condition.listOfJson?_map_toJson conditions
    have hkept : conditions.map .reloaded = conditions := Condition.map_reloaded_of_isCanonical h
    rw [toJson, ofJson?, hrows, hkept]
  | advanced f =>
    -- a filter is stored as an object, which is no list of rows
    have hlist : Condition.listOfJson? f.toJson = none := rfl
    rw [toJson, ofJson?, hlist]
    dsimp only
    rw [Filter.ofJson?_toJson_iff.2 h]
    rfl

/-- **Storing and loading loses nothing.**  Rows are canonical if they have been loaded, made or
edited, and filters whose rows are canonical come back as they were.  So what has been loaded once
is stored and loaded again without a change. -/
theorem reload :
    (∀ (j : Json) (c : Condition), Condition.ofJson? j = some c → c.IsCanonical) ∧
    (∀ id : String, (Condition.blank id).IsCanonical) ∧
    (∀ (c : Condition) (edits : List Condition.Edit), c.IsCanonical →
      (∀ operator, .operator operator ∈ edits → ∃ key, operator = .ofKey key) →
      (c.editedBy edits).IsCanonical) ∧
    (∀ f : Filter, Filter.ofJson? f.toJson = some f ↔ ∀ c ∈ f.rows, c.IsCanonical) ∧
    (∀ saved : SavedFilter,
      ofJson? saved.toJson = some saved ↔ ∀ c ∈ saved.rows, c.IsCanonical) ∧
    (∀ (j : Json) (f : Filter), Filter.ofJson? j = some f → Filter.ofJson? f.toJson = some f) ∧
    (∀ (j : Json) (saved : SavedFilter), ofJson? j = some saved →
      ofJson? saved.toJson = some saved) :=
  ⟨fun _ _ => Condition.isCanonical_of_ofJson?, Condition.isCanonical_blank,
    fun _ _ hc hedits => hc.editedBy hedits, fun _ => Filter.ofJson?_toJson_iff,
    fun _ => ofJson?_toJson_iff,
    fun _ _ h => Filter.ofJson?_toJson_iff.2 (Filter.isCanonical_of_ofJson? h),
    fun _ _ h => ofJson?_toJson_iff.2 (isCanonical_of_ofJson? h)⟩

/-- A filter that is loaded from arrays, with a key in white space, a null in a list and a value
that its operator does not take, comes back; so does a row that is made and edited. -/
theorem reload_arrays :
    (∃ saved, ofJson? (.array [.array [.array [.string "g", .string "OR", .array [.object
        [("operator", .string " date_between "), ("value", .bool true),
          ("valueFrom", .array [.null, .string "x"])]], .array [.object []]]]]) = some saved ∧
      ofJson? saved.toJson = some saved) ∧
    ((Condition.blank "c").editedBy [.operator (.ofKey " between "),
      .range none (some (.text "x"))]).IsCanonical := by
  refine ⟨⟨.advanced ⟨[⟨"g", .any, [⟨"", "", .known .dateBetween,
    .range (some (.list [.text "x"])) none⟩], [⟨"", .all, [], []⟩]⟩], .all⟩, ?load,
    reload.2.2.2.2.2.2 _ _ ?load⟩, ?edit⟩
  case load => rfl
  case edit =>
    refine reload.2.2.1 _ _ (reload.2.1 "c") fun operator hoperator => ?_
    simp only [List.mem_cons, Condition.Edit.operator.injEq, reduceCtorEq, List.not_mem_nil,
      or_false] at hoperator
    exact ⟨_, hoperator⟩

end SavedFilter
end RecordFilter
