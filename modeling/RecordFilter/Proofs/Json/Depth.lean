import RecordFilter.Json.Reader
import RecordFilter.Proofs.Json.Source

/-!
# How deep values are nested

Reading refuses values that are nested too deep and nothing else: a value whose numbers are read
back comes back from its text if, and only if, its depth is within the limit.

* `Json.depth` — how many arrays and objects stand inside one another.
* `Outline.Covers` — whether an outline asks for all that is in a value.
* `Source.read?_source` — what a covered value is read as.
* `Outline.ofText?_text` — the same from its text.
-/

set_option autoImplicit false

namespace RecordFilter

/-! ## Depth -/

namespace Json

mutual

/-- How many arrays and objects stand inside one another in a value. -/
def depth : Json → Nat
  | .array items => itemDepth items + 1
  | .object members => memberDepth members + 1
  | .null | .bool _ | .number _ | .string _ => 0

/-- The depth of the deepest of these items. -/
def itemDepth : List Json → Nat
  | [] => 0
  | j :: rest => max (depth j) (itemDepth rest)

/-- The depth of the deepest of these members. -/
def memberDepth : List (String × Json) → Nat
  | [] => 0
  | (_, j) :: rest => max (depth j) (memberDepth rest)

end

end Json

/-! ## Outlines that ask for all of a value -/

/-- Whether an outline, in a record with the members `enclosing`, asks for all that is in a value.
-/
inductive Outline.Covers : List (String × Outline) → Outline → Json → Prop
  | whole (enclosing : List (String × Outline)) (j : Json) : Covers enclosing .whole j
  | atom (enclosing : List (String × Outline)) (outline : Outline) {j : Json}
      (hitems : ∀ items, j ≠ .array items) (hmembers : ∀ members, j ≠ .object members) :
      Covers enclosing outline j
  | list {enclosing : List (String × Outline)} {item : Outline} {items : List Json}
      (h : ∀ j ∈ items, Covers enclosing item j) : Covers enclosing (.list item) (.array items)
  | record (enclosing : List (String × Outline)) {asked : List (String × Outline)}
      {members : List (String × Json)} (hnames : ∀ member ∈ members, (asked.lookup member.1).isSome)
      (h : ∀ member ∈ members, ∀ outline, asked.lookup member.1 = some outline →
        Covers asked outline member.2) :
      Covers enclosing (.record asked) (.object members)
  | nested {enclosing : List (String × Outline)} {members : List (String × Json)}
      (hnames : ∀ member ∈ members, (enclosing.lookup member.1).isSome)
      (h : ∀ member ∈ members, ∀ outline, enclosing.lookup member.1 = some outline →
        Covers enclosing outline member.2) :
      Covers enclosing .nested (.object members)

/-! ## Reading -/

namespace Source

theorem text?_map_ofChar (s : String) : Piece.text? (s.toList.map Piece.ofChar) = some s := by
  rw [Piece.text?, Piece.chars?_map_ofChar, Option.map_some, String.ofList_toList]

theorem map_ite {α β : Type} {p q : Prop} [Decidable p] [Decidable q] (h : p ↔ q) (a : α)
    (f : α → β) : (if p then some a else none).map f = if q then some (f a) else none := by
  by_cases hp : p
  · rw [if_pos hp, if_pos (h.1 hp), Option.map_some]
  · rw [if_neg hp, if_neg (fun hq => hp (h.2 hq)), Option.map_none]

theorem bind_ite_map_ite {α β γ : Type} {p q r : Prop} [Decidable p] [Decidable q] [Decidable r]
    (h : r ↔ p ∧ q) (a : α) (b : β) (f : α → β → γ) :
    ((if p then some a else none).bind fun a => (if q then some b else none).map (f a)) =
      if r then some (f a b) else none := by
  by_cases hp : p
  · rw [if_pos hp, Option.bind_some]
    exact map_ite ⟨fun hq => h.2 ⟨hp, hq⟩, fun hr => (h.1 hr).2⟩ b (f a)
  · rw [if_neg hp, Option.bind_none, if_neg fun hr => hp (h.1 hr).1]

section

variable {depth : Nat} {pieces : List Piece} {name : String} {value : Source}

theorem readItems?_cons {enclosing : List (String × Outline)} {outline : Outline}
    (rest : List Source) :
    readItems? depth enclosing outline (value :: rest) =
      (read? depth enclosing outline value).bind fun j =>
        (readItems? depth enclosing outline rest).map fun items => j :: items := by
  rw [readItems?]
  cases read? depth enclosing outline value <;>
    cases readItems? depth enclosing outline rest <;> rfl

variable {rest : List (List Piece × Source)} (hname : Piece.text? pieces = some name)
include hname

/-- A member of a record is read by the outline of its name. -/
theorem readMembers?_cons {asked : List (String × Outline)} {outline : Outline}
    (houtline : asked.lookup name = some outline) :
    readMembers? depth asked ((pieces, value) :: rest) =
      (read? depth asked outline value).bind fun j =>
        (readMembers? depth asked rest).map fun members => (name, j) :: members := by
  rw [readMembers?, hname]
  dsimp only
  rw [houtline]
  dsimp only
  cases read? depth asked outline value <;> cases readMembers? depth asked rest <;> rfl

theorem readAllMembers?_cons :
    readAllMembers? depth ((pieces, value) :: rest) =
      (read? depth [] .whole value).bind fun j =>
        (readAllMembers? depth rest).map fun members => (name, j) :: members := by
  rw [readAllMembers?, hname]
  cases read? depth [] .whole value <;> cases readAllMembers? depth rest <;> rfl

end

mutual

/-- **A value is read from its parts exactly if it is not nested too deep.** -/
theorem read?_source : ∀ (j : Json) {depth : Nat} {enclosing : List (String × Outline)}
    {outline : Outline}, outline.Covers enclosing j → (∀ n ∈ j.numbers, n.IsReadBack) →
      read? depth enclosing outline j.source = if j.depth ≤ depth then some j else none
  | .null, depth, _, _, _, _ => by rw [Json.depth, if_pos (Nat.zero_le depth)]; rfl
  | .bool b, depth, _, _, _, _ => by rw [Json.depth, if_pos (Nat.zero_le depth)]; rfl
  | .number n, depth, _, _, _, h => by
    have hn : n.IsReadBack := h n (List.mem_singleton.2 rfl)
    rw [Json.depth, if_pos (Nat.zero_le depth), Json.source, read?, hn.number?_numeral]
    rfl
  | .string s, depth, _, _, _, _ => by
    rw [Json.depth, if_pos (Nat.zero_le depth), Json.source, read?, text?_map_ofChar]
    rfl
  | .array items, 0, enclosing, outline, _, _ => by
    rw [Json.depth, if_neg (by omega), Json.source, read?]
  | .array items, depth + 1, enclosing, outline, hcovers, h => by
    rw [Json.depth, Json.source]
    cases hcovers with
    | atom _ _ hitems _ => exact absurd rfl (hitems items)
    | whole =>
      rw [read?, readItems?_itemSources items (fun j _ => .whole enclosing j) h]
      exact map_ite (Nat.add_le_add_iff_right.symm) items Json.array
    | list hitems =>
      rw [read?, readItems?_itemSources items hitems h]
      exact map_ite (Nat.add_le_add_iff_right.symm) items Json.array
  | .object members, 0, enclosing, outline, _, _ => by
    rw [Json.depth, if_neg (by omega), Json.source, read?]
  | .object members, depth + 1, enclosing, outline, hcovers, h => by
    rw [Json.depth, Json.source]
    cases hcovers with
    | atom _ _ _ hmembers => exact absurd rfl (hmembers members)
    | whole =>
      rw [read?, readAllMembers?_memberSources members h]
      exact map_ite (Nat.add_le_add_iff_right.symm) members Json.object
    | record _ hnames hmembers =>
      rw [read?, readMembers?_memberSources members hnames hmembers h]
      exact map_ite (Nat.add_le_add_iff_right.symm) members Json.object
    | nested hnames hmembers =>
      rw [read?, readMembers?_memberSources members hnames hmembers h]
      exact map_ite (Nat.add_le_add_iff_right.symm) members Json.object

theorem readItems?_itemSources : ∀ (items : List Json) {depth : Nat}
    {enclosing : List (String × Outline)} {outline : Outline},
    (∀ j ∈ items, outline.Covers enclosing j) → (∀ n ∈ Json.itemNumbers items, n.IsReadBack) →
      readItems? depth enclosing outline (Json.itemSources items) =
        if Json.itemDepth items ≤ depth then some items else none
  | [], depth, _, _, _, _ => by rw [Json.itemDepth, if_pos (Nat.zero_le depth)]; rfl
  | j :: rest, depth, enclosing, outline, hcovers, h => by
    rw [Json.itemNumbers, List.forall_mem_append] at h
    obtain ⟨hj, hrest⟩ := List.forall_mem_cons.1 hcovers
    rw [Json.itemSources, readItems?_cons, read?_source j hj h.1,
      readItems?_itemSources rest hrest h.2]
    exact bind_ite_map_ite Nat.max_le j rest List.cons

theorem readMembers?_memberSources : ∀ (members : List (String × Json)) {depth : Nat}
    {asked : List (String × Outline)},
    (∀ member ∈ members, (asked.lookup member.1).isSome) →
    (∀ member ∈ members, ∀ outline, asked.lookup member.1 = some outline →
      outline.Covers asked member.2) →
    (∀ n ∈ Json.memberNumbers members, n.IsReadBack) →
      readMembers? depth asked (Json.memberSources members) =
        if Json.memberDepth members ≤ depth then some members else none
  | [], depth, _, _, _, _ => by rw [Json.memberDepth, if_pos (Nat.zero_le depth)]; rfl
  | (name, j) :: rest, depth, asked, hnames, hcovers, h => by
    rw [Json.memberNumbers, List.forall_mem_append] at h
    obtain ⟨hname, hrestNames⟩ := List.forall_mem_cons.1 hnames
    obtain ⟨hj, hrest⟩ := List.forall_mem_cons.1 hcovers
    obtain ⟨outline, houtline⟩ := Option.isSome_iff_exists.1 hname
    rw [Json.memberSources, readMembers?_cons (text?_map_ofChar name) houtline,
      read?_source j (hj outline houtline) h.1,
      readMembers?_memberSources rest hrestNames hrest h.2]
    exact bind_ite_map_ite Nat.max_le j rest fun j members => (name, j) :: members

theorem readAllMembers?_memberSources : ∀ (members : List (String × Json)) {depth : Nat},
    (∀ n ∈ Json.memberNumbers members, n.IsReadBack) →
      readAllMembers? depth (Json.memberSources members) =
        if Json.memberDepth members ≤ depth then some members else none
  | [], depth, _ => by rw [Json.memberDepth, if_pos (Nat.zero_le depth)]; rfl
  | (name, j) :: rest, depth, h => by
    rw [Json.memberNumbers, List.forall_mem_append] at h
    rw [Json.memberSources, readAllMembers?_cons (text?_map_ofChar name),
      read?_source j (.whole [] j) h.1, readAllMembers?_memberSources rest h.2]
    exact bind_ite_map_ite Nat.max_le j rest fun j members => (name, j) :: members

end

end Source

/-- **A value comes back from its text exactly if it is not nested too deep.** -/
theorem Outline.ofText?_text {outline : Outline} {j : Json} (hcovers : outline.Covers [] j)
    (h : ∀ n ∈ j.numbers, n.IsReadBack) :
    outline.ofText? j.text = if j.depth ≤ nestingLimit then some j else none := by
  rw [ofText?, Source.ofText?_text h, Option.bind_some, Source.read?_source j hcovers h]

end RecordFilter
