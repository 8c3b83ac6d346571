import RecordFilter.Proofs.Filter.Place
import RecordFilter.Proofs.Filter.Removal

/-!
# Connectives by the id of their groups

The editor changes the connective of the first group with an id.  Where no two groups have the same
id, this is to change that of all groups with it, and such a change goes past all others.

* `Group.turned`, `Group.turnedIn` — changing the connective of all groups with an id.
* `Group.getD_updateFirstIn?_turn` — where no two groups have the same id, this is what the edits of
  connectives do.
* `Group.withoutRow_turned`, `Group.turned_comm` — removals of rows, and changes of the connectives
  of other groups.
-/

set_option autoImplicit false

namespace RecordFilter
namespace Group

variable {id other : String} {turn turn' : Connective → Connective}

mutual

/-- A group with the connectives of all groups changed that have this id, at any depth. -/
def turned (id : String) (turn : Connective → Connective) : Group → Group
  | ⟨own, connective, conditions, groups⟩ =>
    ⟨own, if own = id then turn connective else connective, conditions, turnedIn id turn groups⟩

/-- These groups with the connectives of all groups changed that have this id, at any depth. -/
def turnedIn (id : String) (turn : Connective → Connective) : List Group → List Group
  | [] => []
  | g :: rest => turned id turn g :: turnedIn id turn rest

end

theorem turnedIn_eq_map (turn : Connective → Connective) (groups : List Group) :
    turnedIn id turn groups = groups.map (turned id turn) := by
  induction groups with
  | nil => rfl
  | cons g rest ih => rw [turnedIn, ih, List.map_cons]

mutual

theorem turned_of_not_mem (turn : Connective → Connective) : ∀ {g : Group},
    (∀ h ∈ g.nodes, h.id ≠ id) → turned id turn g = g
  | ⟨own, connective, conditions, groups⟩, hnone => by
    obtain ⟨hown, hbelow⟩ := List.forall_mem_cons.1 hnone
    rw [turned, if_neg hown, turnedIn_of_not_mem turn hbelow]

/-- Where no group has the id, nothing changes. -/
theorem turnedIn_of_not_mem (turn : Connective → Connective) : ∀ {groups : List Group},
    (∀ h ∈ nodesOf groups, h.id ≠ id) → turnedIn id turn groups = groups
  | [], _ => rfl
  | g :: rest, hnone => by
    obtain ⟨hg, hrest⟩ := List.forall_mem_append.1 hnone
    rw [turnedIn, turned_of_not_mem turn hg, turnedIn_of_not_mem turn hrest]

end

/-- Where no group before a place has the id and none after it, only what stands there changes. -/
theorem turnedIn_fill (turn : Connective → Connective) (g : Group) {p : Place}
    (hearlier : ∀ h ∈ p.earlier, h.id ≠ id) (hlater : ∀ h ∈ p.later, h.id ≠ id) :
    turnedIn id turn (p.fill g) = p.fill (turned id turn g) := by
  induction p with
  | among before after =>
    have hbefore := turnedIn_of_not_mem turn hearlier
    have hafter := turnedIn_of_not_mem turn hlater
    rw [turnedIn_eq_map] at hbefore hafter ⊢
    rw [Place.fill, Place.fill, List.map_append, List.map_cons, hbefore, hafter]
  | inside before own connective conditions below after ih =>
    obtain ⟨hfront, hinside⟩ := List.forall_mem_append.1 hearlier
    obtain ⟨hown, hbelow⟩ := List.forall_mem_cons.1 hinside
    obtain ⟨hbehind, hback⟩ := List.forall_mem_append.1 hlater
    have hbefore := turnedIn_of_not_mem turn hfront
    have hafter := turnedIn_of_not_mem turn hback
    rw [turnedIn_eq_map] at hbefore hafter ⊢
    rw [Place.fill, Place.fill, List.map_append, List.map_cons, hbefore, hafter, turned,
      if_neg hown, ih hbelow hbehind]

/-- **Where no two groups have the same id, the first one with an id is the only one.** -/
theorem getD_updateFirstIn?_turn (turn : Connective → Connective) {groups : List Group}
    (hnodup : (idsOf groups).Nodup) :
    (updateFirstIn? id (fun g => { g with connective := turn g.connective }) groups).getD groups =
      turnedIn id turn groups := by
  by_cases hid : id ∈ idsOf groups
  · obtain ⟨p, ⟨own, connective, conditions, below⟩, rfl, rfl, hfirst⟩ :=
      exists_place_of_mem_idsOf hid
    simp only [idsOf, p.nodesOf_fill, nodes, List.map_append, List.map_cons, List.append_assoc,
      List.cons_append] at hnodup
    have hothers := (List.nodup_cons.1 (List.nodup_middle.1 hnodup)).1
    simp only [List.mem_append, List.mem_map, not_or, not_exists, not_and] at hothers
    obtain ⟨-, hbelow, hlater⟩ := hothers
    rw [updateFirstIn?_fill rfl hfirst, Option.getD_some, turnedIn_fill turn _ hfirst hlater, turned,
      if_pos rfl, turnedIn_of_not_mem turn hbelow]
  · have hnone := forall_id_ne_of_not_mem hid
    rw [updateFirstIn?_of_not_mem hnone, Option.getD_none, turnedIn_of_not_mem turn hnone]

mutual

theorem map_id_nodes_turned (id : String) (turn : Connective → Connective) : ∀ g : Group,
    ((turned id turn g).nodes.map fun h => h.id) = g.nodes.map fun h => h.id
  | ⟨own, _, _, groups⟩ => congrArg (own :: ·) (idsOf_turnedIn id turn groups)

theorem idsOf_turnedIn (id : String) (turn : Connective → Connective) : ∀ groups : List Group,
    idsOf (turnedIn id turn groups) = idsOf groups
  | [] => rfl
  | g :: rest => by
    have hg := map_id_nodes_turned id turn g
    have hrest := idsOf_turnedIn id turn rest
    simp only [idsOf] at hrest
    simp only [idsOf, turnedIn, nodesOf, List.map_append, hg, hrest]

end

mutual

theorem rows_turned (id : String) (turn : Connective → Connective) : ∀ g : Group,
    (turned id turn g).rows = g.rows
  | ⟨_, _, conditions, groups⟩ => by rw [turned, rows, rows, rowsOf_turnedIn id turn groups]

theorem rowsOf_turnedIn (id : String) (turn : Connective → Connective) : ∀ groups : List Group,
    rowsOf (turnedIn id turn groups) = rowsOf groups
  | [] => rfl
  | g :: rest => by
    rw [turnedIn, rowsOf, rowsOf, rows_turned id turn g, rowsOf_turnedIn id turn rest]

end

theorem holdsRow_turned (a id : String) (turn : Connective → Connective) (g : Group) :
    (turned id turn g).holdsRow a = g.holdsRow a := by
  rw [holdsRow_eq_any, holdsRow_eq_any, rows_turned]

theorem isEmpty_turned (id : String) (turn : Connective → Connective) (g : Group) :
    (turned id turn g).isEmpty = g.isEmpty := by
  obtain ⟨own, connective, conditions, groups⟩ := g
  rw [turned, isEmpty, isEmpty, turnedIn_eq_map, List.isEmpty_map]

mutual

/-- **Connectives and removals of rows.** -/
theorem withoutRow_turned (a id : String) (turn : Connective → Connective) : ∀ g : Group,
    (turned id turn g).withoutRow a = turned id turn (g.withoutRow a)
  | ⟨own, connective, conditions, groups⟩ => by
    rw [turned, withoutRow, withoutRow, turned, withoutRowIn_turnedIn a id turn groups]

theorem withoutRowIn_turnedIn (a id : String) (turn : Connective → Connective) :
    ∀ groups : List Group,
      withoutRowIn a (turnedIn id turn groups) = turnedIn id turn (withoutRowIn a groups)
  | [] => rfl
  | g :: rest => by
    have hg := withoutRow_turned a id turn g
    have hrest := withoutRowIn_turnedIn a id turn rest
    rw [turnedIn, withoutRowIn, withoutRowIn, holdsRow_turned, hg, hrest]
    dsimp only
    rw [isEmpty_turned]
    by_cases hholds : g.holdsRow a = true
    · by_cases hempty : (g.withoutRow a).isEmpty = true
      · rw [if_pos hholds, if_pos hholds, if_pos hempty, if_pos hempty]
      · rw [if_pos hholds, if_pos hholds, if_neg hempty, if_neg hempty, turnedIn]
    · rw [if_neg hholds, if_neg hholds, turnedIn]

end

mutual

/-- **Connectives of groups with different ids.** -/
theorem turned_comm (h : id ≠ other) (turn turn' : Connective → Connective) : ∀ g : Group,
    turned id turn (turned other turn' g) = turned other turn' (turned id turn g)
  | ⟨own, connective, conditions, groups⟩ => by
    have hgroups := turnedIn_comm h turn turn' groups
    by_cases hown : own = id
    · have hother : own ≠ other := hown ▸ h
      simp only [turned, if_pos hown, if_neg hother, hgroups]
    · simp only [turned, if_neg hown, hgroups]

theorem turnedIn_comm (h : id ≠ other) (turn turn' : Connective → Connective) :
    ∀ groups : List Group,
      turnedIn id turn (turnedIn other turn' groups) =
        turnedIn other turn' (turnedIn id turn groups)
  | [] => rfl
  | g :: rest => by
    simp only [turnedIn, turned_comm h turn turn' g, turnedIn_comm h turn turn' rest]

end

end Group
end RecordFilter
