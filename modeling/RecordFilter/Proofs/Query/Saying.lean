import RecordFilter.Proofs.Fault
import RecordFilter.Proofs.Filter.Nodes
import RecordFilter.Proofs.Query.Reading

/-!
# What a tree says

Once it is known what each row of a tree says of a record, nothing else about rows matters, and what
the tree says is a sum: parts that say nothing count as zero, and two answers are added by the
connective.  So the order of parts does not matter, nor that some of them stand in a part of their
own below the same connective.

* `Connective.answer?_cons` — what parts say together, as such a sum.
* `Connective.answer?_perm`, `Connective.answer?_nested` — the two laws of a sum.
* `Connective.CarriesOver` — what is known of one part in two versions, and holds of the sums too;
  `Connective.carriesOver_le` is that a sum does not sink when one of its parts rises.
* `Condition.said`, `Group.said`, `Filter.said` — what a row, a group and a filter say of a record.
* `Filter.rel_said` — what exchanging a group does to what the filter says.
* `Filter.answer?_of_query` — a query that is compiled says what the tree says, since a tree that is
  read without a fault reads as what it says.
-/

set_option autoImplicit false

namespace RecordFilter

/-! ## Answers as a sum -/

namespace Connective

/-- Two answers under a connective. -/
def both : Connective → Bool → Bool → Bool
  | all => and
  | any => or

instance (connective : Connective) : Std.Associative connective.both where
  assoc := by cases connective <;> decide

instance (connective : Connective) : Std.Commutative connective.both where
  comm := by cases connective <;> decide

variable {connective : Connective}

theorem holds_cons (answer : Bool) (answers : List Bool) :
    connective.holds (answer :: answers) = connective.both answer (connective.holds answers) := by
  cases connective <;> rfl

/-- **What parts say together is a sum**, with nothing as its zero. -/
theorem answer?_cons (first : Option Bool) (answers : List (Option Bool)) :
    connective.answer? (first :: answers) =
      Option.merge connective.both first (connective.answer? answers) := by
  rw [answer?, answer?]
  rcases first with _ | answer
  · rw [List.filterMap_cons_none rfl, Option.merge_none_left]
  · have hgiven : (some answer :: answers).filterMap id = answer :: answers.filterMap id :=
      List.filterMap_cons_some rfl
    rw [hgiven]
    rcases answers.filterMap id with _ | ⟨next, rest⟩
    · simp [holds_singleton]
    · simp [holds_cons]

theorem answer?_singleton (answer : Option Bool) : connective.answer? [answer] = answer := by
  rw [answer?_cons]
  exact Option.merge_none_right

theorem answer?_append (answers others : List (Option Bool)) :
    connective.answer? (answers ++ others) =
      Option.merge connective.both (connective.answer? answers) (connective.answer? others) := by
  induction answers with
  | nil => exact Option.merge_none_left.symm
  | cons first rest ih =>
    rw [List.cons_append, answer?_cons, answer?_cons, ih]
    ac_rfl

/-- The order of parts does not matter. -/
theorem answer?_perm {answers answers' : List (Option Bool)} (h : answers.Perm answers') :
    connective.answer? answers = connective.answer? answers' := by
  induction h with
  | nil => rfl
  | cons first _ ih => rw [answer?_cons, answer?_cons, ih]
  | swap first second rest =>
    simp only [answer?_cons]
    ac_rfl
  | trans _ _ ih ih' => exact ih.trans ih'

/-- **Parts below the same connective may as well stand side by side.** -/
theorem answer?_nested (inner before after : List (Option Bool)) :
    connective.answer? (before ++ connective.answer? inner :: after) =
      connective.answer? (before ++ inner ++ after) := by
  simp only [answer?_append, answer?_cons]
  ac_rfl

/-- A connective makes no difference for a single part, nor for none. -/
theorem answer?_eq_of_length_lt {answers : List (Option Bool)} (h : answers.length < 2)
    (connective connective' : Connective) :
    connective.answer? answers = connective'.answer? answers := by
  rcases answers with _ | ⟨first, _ | ⟨next, rest⟩⟩
  · rfl
  · rw [answer?_singleton, answer?_singleton]
  · rw [List.length_cons, List.length_cons] at h
    omega

/-! ### What carries over from a part -/

/-- Whether a relation between two answers of a part carries over to what the parts say together,
below either connective. -/
def CarriesOver (relation : Option Bool → Option Bool → Prop) : Prop :=
  ∀ (connective : Connective) (before after : List (Option Bool)) (answer answer' : Option Bool),
    relation answer answer' → relation (connective.answer? (before ++ answer :: after))
      (connective.answer? (before ++ answer' :: after))

theorem carriesOver_eq : CarriesOver Eq := by
  rintro connective before after answer _ rfl
  rfl

theorem CarriesOver.flip {relation : Option Bool → Option Bool → Prop}
    (h : CarriesOver relation) : CarriesOver fun answer answer' => relation answer' answer :=
  fun connective before after answer answer' => h connective before after answer' answer

theorem both_le_both {low high : Bool} (h : low ≤ high) (answer : Bool) :
    connective.both low answer ≤ connective.both high answer := by
  revert low high answer
  cases connective <;> decide

theorem rel_merge {low high : Option Bool} (h : Option.Rel (· ≤ ·) low high)
    (other : Option Bool) :
    Option.Rel (· ≤ ·) (Option.merge connective.both low other)
      (Option.merge connective.both high other) := by
  rcases h with h | _
  · rcases other with _ | answer
    · exact .some h
    · exact .some (both_le_both h answer)
  · rcases other with _ | answer
    · exact .none
    · exact .some (Bool.le_refl answer)

/-- **When one part rises from no to yes, what the parts say together does not sink.** -/
theorem carriesOver_le : CarriesOver (Option.Rel (· ≤ ·)) := by
  intro connective before after low high h
  rw [answer?_perm List.perm_middle, answer?_perm List.perm_middle, answer?_cons, answer?_cons]
  exact rel_merge h _

/-- What is let through before an answer rises is let through afterwards. -/
theorem getD_of_rel {low high : Option Bool} (h : Option.Rel (· ≤ ·) low high)
    (hlow : low.getD true = true) : high.getD true = true := by
  rcases h with h | _
  · exact h hlow
  · rfl

end Connective

/-! ## Rows, groups and filters -/

/-- What a row says of a record.  A row with a fault says nothing. -/
def Condition.said (settings : Settings) (base : String) (record : Json) (c : Condition) :
    Option Bool :=
  match c.reading settings base record with
  | .ok answer => answer
  | .error _ => none

namespace Group

mutual

/-- What a group says, when each row says what `row` tells. -/
def said (row : Condition → Option Bool) : Group → Option Bool
  | ⟨_, connective, conditions, groups⟩ =>
    connective.answer? (conditions.map row ++ saidEach row groups)

/-- What each of these groups says. -/
def saidEach (row : Condition → Option Bool) : List Group → List (Option Bool)
  | [] => []
  | g :: rest => said row g :: saidEach row rest

end

theorem saidEach_eq_map (row : Condition → Option Bool) (groups : List Group) :
    saidEach row groups = groups.map (said row) := by
  induction groups with
  | nil => rfl
  | cons g rest ih => rw [saidEach, ih, List.map_cons]

end Group

/-- What a filter says, when each row says what `row` tells. -/
def Filter.said (row : Condition → Option Bool) (f : Filter) : Option Bool :=
  f.connective.answer? (f.groups.map (Group.said row))

theorem Group.said_eq (row : Condition → Option Bool) (id : String) (connective : Connective)
    (conditions : List Condition) (groups : List Group) :
    said row ⟨id, connective, conditions, groups⟩ =
      connective.answer? (conditions.map row ++ groups.map (said row)) := by
  rw [said, saidEach_eq_map]

/-! ### Exchanging a group -/

section

variable {relation : Option Bool → Option Bool → Prop} {row : Condition → Option Bool}
  {g new : Group} {groups left : List Group}

theorem Group.Exchanged.rel_answer? (hcarries : Connective.CarriesOver relation)
    (h : Group.Exchanged g new groups left) (hg : relation (g.said row) (new.said row))
    (connective : Connective) (own : List (Option Bool)) :
    relation (connective.answer? (own ++ groups.map (Group.said row)))
      (connective.answer? (own ++ left.map (Group.said row))) := by
  induction h generalizing connective own with
  | among before after =>
    simp only [List.map_append, List.map_cons, ← List.append_assoc]
    exact hcarries connective _ _ _ _ hg
  | inside before after id inner conditions _ ih =>
    simp only [List.map_append, List.map_cons, ← List.append_assoc, Group.said_eq]
    exact hcarries connective _ _ _ _ (ih inner (conditions.map row))

/-- **What carries over from parts to wholes carries over from a group to the filter**, however deep
the group stands. -/
theorem Filter.rel_said (hcarries : Connective.CarriesOver relation) (connective : Connective)
    (h : Group.Exchanged g new groups left) (hg : relation (g.said row) (new.said row)) :
    relation (Filter.said row ⟨groups, connective⟩) (Filter.said row ⟨left, connective⟩) :=
  h.rel_answer? hcarries hg connective []

end

/-! ## Queries say what trees say -/

section

variable {settings : Settings} {base : String} {record : Json}

theorem Condition.eq_said_of_readings {conditions : List Condition} {answers : List (Option Bool)}
    (h : readings settings base record conditions = .ok answers) :
    answers = conditions.map (said settings base record) := by
  induction conditions generalizing answers with
  | nil => exact (Except.ok.inj h).symm
  | cons c rest ih =>
    obtain ⟨first, others, hfirst, hothers, rfl⟩ := OffCalendar.both_eq_ok_iff.1 h
    simp [said, hfirst, ih hothers]

namespace Group

mutual

/-- A group that is read without a fault says what it reads as. -/
theorem eq_said_of_reading : ∀ {g : Group} {answer : Option Bool},
    g.reading settings base record = .ok answer →
      answer = g.said (Condition.said settings base record)
  | ⟨_, connective, conditions, groups⟩, answer, h => by
    rw [reading] at h
    obtain ⟨own, nested, hown, hnested, rfl⟩ := OffCalendar.both_eq_ok_iff.1 h
    rw [said, Condition.eq_said_of_readings hown, eq_saidEach_of_readings hnested]

theorem eq_saidEach_of_readings : ∀ {groups : List Group} {answers : List (Option Bool)},
    readings settings base record groups = .ok answers →
      answers = saidEach (Condition.said settings base record) groups
  | [], answers, h => (Except.ok.inj h).symm
  | g :: rest, answers, h => by
    rw [readings] at h
    obtain ⟨first, others, hfirst, hothers, rfl⟩ := OffCalendar.both_eq_ok_iff.1 h
    rw [saidEach, eq_said_of_reading hfirst, eq_saidEach_of_readings hothers]

end

/-- **The query of a group says what the group says.** -/
theorem answer?_of_query {g : Group} {found : Noted Query} (record : Json)
    (h : g.query settings base = .ok found) :
    found.value.answer? record = g.said (Condition.said settings base record) := by
  have hreads := answer?_query settings base record g
  rw [h] at hreads
  exact eq_said_of_reading hreads.symm

end Group

/-- **The query of a filter says what the filter says.** -/
theorem Filter.answer?_of_query {f : Filter} {found : Noted Query} (record : Json)
    (h : f.query settings = .ok found) :
    found.value.answer? record =
      f.said (Condition.said settings settings.options.fieldBase record) := by
  obtain ⟨parts, hparts, rfl⟩ := OffCalendar.map_eq_ok_iff.1 h
  have hreads := Group.answers_queries settings settings.options.fieldBase record f.groups
  rw [hparts] at hreads
  have hsaid : parts.value.map (Query.answer? record) =
      Group.saidEach (Condition.said settings settings.options.fieldBase record) f.groups :=
    Group.eq_saidEach_of_readings hreads.symm
  show (Query.join f.connective parts.value).answer? record = _
  rw [Query.answer?_join, hsaid, Group.saidEach_eq_map, said]

end

end RecordFilter
