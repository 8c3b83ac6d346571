import RecordFilter.Query.Matching
import RecordFilter.Query.OfFilter

/-!
# What joining keeps

`Query.join` leaves out the parts that constrain nothing, returns a single part that is left as it
is, and builds a list of parts only for two or more of them.  This file says what all three shapes
have in common.

* `Query.constraining` — the parts that are left.  A join depends on nothing else (`join_congr`).
* `Query.answer?` — what a query says of a record: nothing, if it constrains nothing.
* `Connective.answer?` — what parts say together.  `answer?_join` is the one fact about records and
  joins: a join says what its parts say together, whichever of its shapes it has.
* `Condition.ConstrainsNothing`, `Group.ConstrainsNothing` — the rows and the groups that a join
  leaves out.
-/

set_option autoImplicit false

namespace RecordFilter

/-! ## What parts say together -/

namespace Connective

/-- Whether all of these answers are yes, or any of them. -/
def holds : Connective → List Bool → Bool
  | all, answers => answers.all id
  | any, answers => answers.any id

/-- What parts with these answers say together: nothing, if none of them says anything. -/
def answer? (connective : Connective) (answers : List (Option Bool)) : Option Bool :=
  match answers.filterMap id with
  | [] => none
  | given => some (connective.holds given)

theorem holds_singleton (connective : Connective) (answer : Bool) :
    connective.holds [answer] = answer := by
  cases connective <;> simp [holds]

/-- A part that says nothing is ignored by both connectives. -/
theorem answer?_append_none_cons (connective : Connective) (before after : List (Option Bool)) :
    connective.answer? (before ++ none :: after) = connective.answer? (before ++ after) := by
  rw [answer?, answer?, List.filterMap_append, List.filterMap_append,
    List.filterMap_cons_none rfl]

end Connective

namespace Query

/-! ## The parts that are left -/

/-- The queries of a list that constrain something, in order. -/
def constraining (parts : List Query) : List Query := parts.filter fun q => !q.isEverything

theorem isEverything_of_mem_constraining {parts : List Query} {q : Query}
    (h : q ∈ constraining parts) : q.isEverything = false := by
  have hq := (List.mem_filter.1 h).2
  simpa using hq

theorem constraining_append (before after : List Query) :
    constraining (before ++ after) = constraining before ++ constraining after :=
  List.filter_append ..

theorem constraining_constraining (parts : List Query) :
    constraining (constraining parts) = constraining parts := by
  simp [constraining, List.filter_filter]

theorem join_eq (connective : Connective) (parts : List Query) :
    join connective parts =
      match constraining parts with
      | [] => everything
      | [part] => part
      | parts => combine connective parts := rfl

/-- **A join depends on nothing but the parts that constrain something.** -/
theorem join_congr (connective : Connective) {parts parts' : List Query}
    (h : constraining parts = constraining parts') :
    join connective parts = join connective parts' := by
  rw [join_eq, join_eq, h]

/-! ## What a query says of a record -/

/-- What a query says of a record: nothing, if it constrains nothing. -/
def answer? (record : Json) (q : Query) : Option Bool :=
  if q.isEverything then none else some (q.accepts record)

theorem answer?_eq_none_iff {record : Json} {q : Query} :
    q.answer? record = none ↔ q = everything := by
  cases q <;> simp [answer?, isEverything]

/-- A query that says nothing accepts every record. -/
theorem accepts_eq_getD (record : Json) (q : Query) :
    q.accepts record = (q.answer? record).getD true := by
  cases q <;> rfl

theorem allAccept_eq_all (record : Json) (parts : List Query) :
    allAccept record parts = (parts.map (accepts record)).all id := by
  induction parts with
  | nil => rfl
  | cons q rest ih => rw [allAccept, ih, List.map_cons, List.all_cons, id]

theorem anyAccepts_eq_any (record : Json) (parts : List Query) :
    anyAccepts record parts = (parts.map (accepts record)).any id := by
  induction parts with
  | nil => rfl
  | cons q rest ih => rw [anyAccepts, ih, List.map_cons, List.any_cons, id]

theorem answer?_combine (record : Json) (connective : Connective) (parts : List Query) :
    (combine connective parts).answer? record =
      some (connective.holds (parts.map (accepts record))) := by
  cases connective with
  | all => exact congrArg some (allAccept_eq_all record parts)
  | any => exact congrArg some (anyAccepts_eq_any record parts)

/-- The answers that parts give are those of the parts that constrain something. -/
theorem filterMap_answer? (record : Json) (parts : List Query) :
    (parts.map (answer? record)).filterMap id = (constraining parts).map (accepts record) := by
  induction parts with
  | nil => rfl
  | cons q rest ih =>
    rw [List.map_cons, constraining, List.filter_cons, ← constraining]
    cases hq : q.isEverything with
    | true => simpa [answer?, hq] using ih
    | false => simpa [answer?, hq] using ih

/-- **A join says what its parts say together**, whether none, one or several of them constrain
something. -/
theorem answer?_join (record : Json) (connective : Connective) (parts : List Query) :
    (join connective parts).answer? record =
      connective.answer? (parts.map (answer? record)) := by
  rw [join_eq, Connective.answer?, filterMap_answer?]
  cases hparts : constraining parts with
  | nil => rfl
  | cons q rest =>
    cases rest with
    | nil =>
      have hmem : q ∈ constraining parts := by rw [hparts]; exact List.mem_cons_self
      simp [answer?, isEverything_of_mem_constraining hmem, Connective.holds_singleton]
    | cons next rest => exact answer?_combine record connective (q :: next :: rest)

end Query

/-! ## Rows and groups that constrain nothing -/

/-- Whether a row compiles, and to a query that constrains nothing. -/
def Condition.ConstrainsNothing (settings : Settings) (base : String) (c : Condition) : Prop :=
  (c.query settings base).map Noted.value = .ok .everything

/-- Whether a group compiles, and to a query that constrains nothing. -/
def Group.ConstrainsNothing (settings : Settings) (base : String) (g : Group) : Prop :=
  (g.query settings base).map Noted.value = .ok .everything

/-- Settings without a base path and without a catalog, for a clock that shows the beginning of 1970
in universal time. -/
def Settings.atEpoch : Settings :=
  ⟨⟨⟨0, 0, by decide, by decide⟩, .zero⟩, .default, none⟩

end RecordFilter
