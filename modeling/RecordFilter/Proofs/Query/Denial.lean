import RecordFilter.Proofs.Query.Row

/-!
# Verbs and their denials

Six verbs have a denial: *equals* and *does not equal*, *between* and *not between*, and so on.  The
two are compiled in different ways, the one to a single test and the other to a negated test, to
several tests, or to two tests for what lies on either side.  This file says that they deny each
other all the same.

* `Verb.denial?` — the denial of a verb.
* `Verb.comparable?` — the stored values that a verb compares.  A range of numbers compares numbers
  and a day compares what is read as an instant; neither says anything of other values, and of an
  array each says what holds of some item.
* `Verb.Denies` — what the answers of a verb and of its denial to a stored value have to do with
  each other.
* `Query.Opposed` — two queries whose answers have this to do with each other, for every record.
  `Query.opposed_outside` is the one case that needs an argument: what is compared with both ends of
  a range lies inside or outside of it, and not both, wherever the ends lie.
* `Condition.accepts_denial` — rows that differ in nothing but a verb and its denial.
-/

set_option autoImplicit false

namespace RecordFilter

/-! ## Pairs of verbs -/

/-- The verb that denies what a verb asks, if there is one. -/
def Verb.denial? : Verb → Option Verb
  | equals => some notEquals
  | contains => some notContains
  | isIn => some isNotIn
  | isEmpty => some isNotEmpty
  | between => some notBetween
  | dateIs => some dateIsNot
  | _ => none

/-- Whether a stored value is a number. -/
def Json.isNumber : Json → Bool
  | .number _ => true
  | _ => false

/-- Which stored values a verb compares with two ends, if that is what it does. -/
def Verb.comparable? : Verb → Option (Json → Bool)
  | between => some Json.isNumber
  | dateIs => some fun j => j.instant?.isSome
  | _ => none

/-- What the answers of a verb and of its denial to the value at a path have to do with each other.
If the verb does not compare, exactly one of them is yes.  If it compares, this is so of the values
that it compares; both say no where there is no value or one that is not compared; and of an array
one of them says yes when some item is compared. -/
def Verb.Denies (verb : Verb) (value : Option Json) (yes no : Bool) : Prop :=
  match verb.comparable? with
  | none => yes = !no
  | some comparable =>
    match value with
    | none => yes = false ∧ no = false
    | some (.array items) => yes = true ∨ no = true ↔ ∃ j ∈ items, comparable j = true
    | some j => if comparable j then yes = !no else yes = false ∧ no = false

/-- Two queries for the field at a path that constrain something, and whose answers to every record
are those of a verb and of its denial. -/
structure Query.Opposed (verb : Verb) (path : String) (asked denied : Query) : Prop where
  asked_ne : asked ≠ .everything
  denied_ne : denied ≠ .everything
  denies : ∀ record : Json,
    verb.Denies (record.at? path) (asked.accepts record) (denied.accepts record)

/-! ## Ends that compare with the same values -/

/-- The number that a JSON number stands for has a place on the number line. -/
theorem Json.Number.exists_key? (n : Json.Number) : ∃ place, n.toDouble.key? = some place := by
  cases n with
  | double x => exact ⟨x.key, rfl⟩
  | integer n fits =>
    rw [toDouble, Double.ofInt, Double.ofRatio]
    split <;> exact ⟨_, rfl⟩

namespace Operand

theorem isSome_compareValue?_number (x : FiniteDouble) (j : Json) :
    (compareValue? j (.number (.finite x))).isSome = j.isNumber := by
  cases j with
  | number n =>
    obtain ⟨place, hplace⟩ := n.exists_key?
    have hkey : (Double.finite x).key? = some x.key := rfl
    simp [compareValue?, Double.compare?, hplace, hkey, Json.isNumber]
  | null | bool b | string s | array items | object members => rfl

theorem isSome_compareValue?_date (t : Instant) (j : Json) :
    (compareValue? j (.date t)).isSome = j.instant?.isSome := by
  rw [compareValue?, Option.isSome_map]

/-- Whether a value lies between two operands. -/
def isInside (lower upper : Operand) (j : Json) : Bool := lower.isAtMost j && upper.isAtLeast j

/-- Whether a value lies below one operand or above another one. -/
def isOutside (lower upper : Operand) (j : Json) : Bool := lower.isAbove j || upper.isBelow j

variable {lower upper : Operand} {j : Json} {comparable : Bool}

/-- A value is inside or outside exactly when it compares with the ends. -/
theorem isInside_or_isOutside (hlower : (lower.compareValue? j).isSome = comparable)
    (hupper : (upper.compareValue? j).isSome = comparable) :
    (isInside lower upper j || isOutside lower upper j) = comparable := by
  simp only [isInside, isOutside, isAtMost, isAtLeast, isAbove, isBelow]
  cases hlow : lower.compareValue? j with
  | none =>
    cases hhigh : upper.compareValue? j with
    | none => simpa [hlow] using hlower
    | some high => simp_all
  | some low =>
    cases hhigh : upper.compareValue? j with
    | none => simp_all
    | some high =>
      obtain rfl : comparable = true := by simpa [hlow] using hlower.symm
      cases low <;> cases high <;> rfl

/-- No value is both inside and outside.  Nothing is asked of the ends: if the lower one is above
the upper one, all values that compare with them are outside. -/
theorem isInside_and_isOutside : (isInside lower upper j && isOutside lower upper j) = false := by
  simp only [isInside, isOutside, isAtMost, isAtLeast, isAbove, isBelow]
  cases lower.compareValue? j with
  | none => rfl
  | some low =>
    cases upper.compareValue? j with
    | none => cases low <;> rfl
    | some high => cases low <;> cases high <;> rfl

end Operand

/-! ## Queries that are opposed -/

theorem anyItem_or (value : Option Json) (f g : Json → Bool) :
    (anyItem value f || anyItem value g) = anyItem value fun j => f j || g j := by
  cases value with
  | none => rfl
  | some j =>
    cases j with
    | array items =>
      rw [Bool.eq_iff_iff]
      simp only [anyItem, Bool.or_eq_true, List.any_eq_true, and_or_left, exists_or]
    | null | bool b | number n | string s | object members => rfl

theorem anyItem_of_imp {value : Option Json} {f g : Json → Bool} (h : ∀ j, f j = true → g j = true)
    (hany : anyItem value f = true) : anyItem value g = true := by
  rcases value with _ | j
  · exact hany
  · cases j
    case array items =>
      obtain ⟨item, hitem, hf⟩ := List.any_eq_true.1 hany
      exact List.any_eq_true.2 ⟨item, hitem, h item hf⟩
    all_goals exact h _ hany

namespace Query

variable {path : String}

/-- A test that fails exactly where another one holds is opposed to it, for a verb that does not
compare. -/
theorem opposed_field {verb : Verb} (hverb : verb.comparable? = none) {yes no : Test}
    (h : ∀ value, no.holds value = !yes.holds value) :
    Opposed verb path (.field path yes) (.field path no) where
  asked_ne := nofun
  denied_ne := nofun
  denies record := by
    rw [Verb.Denies, hverb]
    show yes.holds (record.at? path) = !no.holds (record.at? path)
    rw [h, Bool.not_not]

theorem opposed_filledAt : Opposed .isEmpty path (emptyAt path) (filledAt path) where
  asked_ne := nofun
  denied_ne := nofun
  denies record := by
    show (emptyAt path).accepts record = !(filledAt path).accepts record
    simp [emptyAt, filledAt, accepts, anyAccepts, allAccept, Test.holds, Bool.not_and]

/-- **What lies outside of two ends is opposed to what lies inside**, for a verb that compares the
values that the ends compare with. -/
theorem opposed_outside {verb : Verb} {comparable : Json → Bool}
    (hverb : verb.comparable? = some comparable) {lower upper : Operand}
    (hlower : ∀ j, (lower.compareValue? j).isSome = comparable j)
    (hupper : ∀ j, (upper.compareValue? j).isSome = comparable j) :
    Opposed verb path (inside path lower upper) (outside path lower upper) where
  asked_ne := nofun
  denied_ne := nofun
  denies record := by
    have hinside : (inside path lower upper).accepts record =
        anyItem (record.at? path) (Operand.isInside lower upper) := rfl
    have houtside : (outside path lower upper).accepts record =
        anyItem (record.at? path) (Operand.isOutside lower upper) := by
      simp only [outside, accepts, anyAccepts, Test.holds, Bool.or_false]
      exact anyItem_or ..
    have hor : (fun j => Operand.isInside lower upper j || Operand.isOutside lower upper j) =
        comparable := by
      funext j
      exact Operand.isInside_or_isOutside (hlower j) (hupper j)
    have hone : ∀ j, if comparable j then
        Operand.isInside lower upper j = !Operand.isOutside lower upper j
        else Operand.isInside lower upper j = false ∧ Operand.isOutside lower upper j = false := by
      intro j
      have hand : (Operand.isInside lower upper j && Operand.isOutside lower upper j) = false :=
        Operand.isInside_and_isOutside
      rw [← hor]
      cases hin : Operand.isInside lower upper j <;>
        cases hout : Operand.isOutside lower upper j <;> simp_all
    rw [hinside, houtside, Verb.Denies, hverb]
    cases record.at? path with
    | none => exact ⟨rfl, rfl⟩
    | some j =>
      cases j with
      | null => exact hone .null
      | bool b => exact hone (.bool b)
      | number n => exact hone (.number n)
      | string s => exact hone (.string s)
      | object members => exact hone (.object members)
      | array items =>
        show _ = true ∨ _ = true ↔ _
        rw [← Bool.or_eq_true, anyItem_or, hor]
        exact List.any_eq_true

end Query

/-! ## Verbs and rows -/

/-- **A verb and its denial make opposed queries of the same values**, or both make none, or both
have a fault. -/
theorem Verb.exists_opposed (settings : Settings) (field path : String) (argument : Argument)
    {verb denial : Verb} (h : verb.denial? = some denial) :
    ∃ (α : Type) (values : Except OffCalendar (Option α)) (asked denied : α → Query),
      verb.query? settings field path argument =
        values.map (fun values? => ⟨values?.map asked, []⟩) ∧
      denial.query? settings field path argument =
        values.map (fun values? => ⟨values?.map denied, []⟩) ∧
      ∀ values, Query.Opposed verb path (asked values) (denied values) := by
  cases verb
  case contains =>
    obtain rfl := Option.some.inj h
    exact ⟨String, .ok _, _, _, rfl, rfl, fun s => Query.opposed_field rfl fun value => rfl⟩
  case equals =>
    obtain rfl := Option.some.inj h
    exact ⟨Operand, .ok _, _, _, rfl, rfl, fun x => Query.opposed_field rfl fun value => rfl⟩
  case isIn =>
    obtain rfl := Option.some.inj h
    exact ⟨List Operand, .ok _, _, _, rfl, rfl, fun xs => Query.opposed_field rfl fun value => rfl⟩
  case isEmpty =>
    obtain rfl := Option.some.inj h
    exact ⟨Unit, .ok (some ()), fun _ => Query.emptyAt path, fun _ => Query.filledAt path, rfl, rfl,
      fun _ => Query.opposed_filledAt⟩
  case between =>
    obtain rfl := Option.some.inj h
    exact ⟨_, .ok (Query.numbers? argument.ends?), _, _,
      congrArg Query.quietly (Query.ofNumbers?_eq_map argument.ends? (Query.inside path)),
      congrArg Query.quietly (Query.ofNumbers?_eq_map argument.ends? (Query.outside path)),
      fun numbers => Query.opposed_outside rfl (Operand.isSome_compareValue?_number numbers.1)
        (Operand.isSome_compareValue?_number numbers.2)⟩
  case dateIs =>
    obtain rfl := Option.some.inj h
    refine ⟨Window, _, _, _, Query.orFault_ofDay? .., Query.orFault_ofDay? .., fun window => ?_⟩
    exact Query.opposed_outside rfl (Operand.isSome_compareValue?_date window.start)
      (Operand.isSome_compareValue?_date window.finish)
  all_goals exact nomatch h

namespace Condition

/-- The row with this verb instead of its own operator. -/
def asking (c : Condition) (verb : Verb) : Condition := { c with operator := .known verb }

/-- Rows that differ in nothing but a verb and its denial compile to opposed queries, or both to the
one that constrains nothing, or both have a fault. -/
theorem exists_opposed (settings : Settings) (base : String) (c : Condition) {verb denial : Verb}
    (h : verb.denial? = some denial) :
    ∃ (α : Type) (values : Except OffCalendar (Option α)) (asked denied : α → Query),
      ((c.asking verb).query settings base).map Noted.value =
        values.map (fun values? => (values?.map asked).getD .everything) ∧
      ((c.asking denial).query settings base).map Noted.value =
        values.map (fun values? => (values?.map denied).getD .everything) ∧
      ∀ values, Query.Opposed verb (Path.under base (Text.trim c.field)) (asked values)
        (denied values) := by
  cases hfield : c.isBlank with
  | true =>
    have hasked : (c.asking verb).ConstrainsNothing settings base :=
      constrainsNothing_of_isBlank hfield
    have hdenied : (c.asking denial).ConstrainsNothing settings base :=
      constrainsNothing_of_isBlank hfield
    exact ⟨Empty, .ok none, nofun, nofun, hasked, hdenied, nofun⟩
  | false =>
    obtain ⟨α, values, asked, denied, hasked, hdenied, hopposed⟩ :=
      Verb.exists_opposed settings (Text.trim c.field) (Path.under base (Text.trim c.field))
        c.argument h
    refine ⟨α, values, asked, denied, ?_, ?_, hopposed⟩
    · rw [value_query_known (c := c.asking verb) hfield rfl]
      exact (congrArg (Except.map _) hasked).trans (OffCalendar.map_map ..)
    · rw [value_query_known (c := c.asking denial) hfield rfl]
      exact (congrArg (Except.map _) hdenied).trans (OffCalendar.map_map ..)

/-- **Rows that differ in nothing but a verb and its denial deny each other.**  One compiles to a
query when the other one does, and to one that constrains nothing when the other one does; and if
they constrain something, their answers to every record are those of a verb and of its denial. -/
theorem accepts_denial (settings : Settings) (base : String) (c : Condition) {verb denial : Verb}
    (h : verb.denial? = some denial) :
    ((∃ found, (c.asking verb).query settings base = .ok found) ↔
      ∃ found, (c.asking denial).query settings base = .ok found) ∧
    ∀ asked denied : Noted Query, (c.asking verb).query settings base = .ok asked →
      (c.asking denial).query settings base = .ok denied →
      (asked.value = .everything ↔ denied.value = .everything) ∧
      (asked.value ≠ .everything → ∀ record : Json,
        verb.Denies (record.at? (Path.under base (Text.trim c.field)))
          (asked.value.accepts record) (denied.value.accepts record)) := by
  obtain ⟨α, values, asks, denies, hasks, hdenies, hopposed⟩ :=
    exists_opposed settings base c h
  constructor
  · rw [← OffCalendar.exists_map_ok_iff Noted.value, hasks, OffCalendar.exists_map_ok_iff,
      ← OffCalendar.exists_map_ok_iff Noted.value ((c.asking denial).query settings base), hdenies,
      OffCalendar.exists_map_ok_iff]
  · intro asked denied hasked hdenied
    rw [hasked] at hasks
    rw [hdenied] at hdenies
    cases values with
    | error fault => exact nomatch hasks
    | ok values? =>
      have hyes : asked.value = (values?.map asks).getD .everything := Except.ok.inj hasks
      have hno : denied.value = (values?.map denies).getD .everything := Except.ok.inj hdenies
      cases values? with
      | none => exact ⟨iff_of_true hyes hno, fun hne => absurd hyes hne⟩
      | some values =>
        have hboth := hopposed values
        rw [hyes, hno]
        exact ⟨iff_of_false hboth.asked_ne hboth.denied_ne, fun _ => hboth.denies⟩

/-- A day and its denial: neither holds of a text that is no date, and of an array one of them holds
because one item is a date. -/
theorem accepts_denial_first_day :
    Verb.denial? .dateIs = some .dateIsNot ∧
    ∃ first last : Operand,
      (asking ⟨"c", "at", .blank, .single (.number (.integer 0 (by decide)))⟩ .dateIs).query
        .atEpoch "" = .ok ⟨.inside "at" first last, []⟩ ∧
      (asking ⟨"c", "at", .blank, .single (.number (.integer 0 (by decide)))⟩ .dateIsNot).query
        .atEpoch "" = .ok ⟨.outside "at" first last, []⟩ ∧
      ((Query.inside "at" first last).accepts (.object [("at", .string "soon")]) = false ∧
        (Query.outside "at" first last).accepts (.object [("at", .string "soon")]) = false) ∧
      ((Query.inside "at" first last).accepts
          (.object [("at", .array [.null, .string "1970-01-02"])]) = true ∨
        (Query.outside "at" first last).accepts
          (.object [("at", .array [.null, .string "1970-01-02"])]) = true) := by
  refine ⟨rfl, _, _, rfl, rfl, ?_⟩
  obtain ⟨-, h⟩ := accepts_denial .atEpoch ""
    ⟨"c", "at", .blank, .single (.number (.integer 0 (by decide)))⟩
    (rfl : Verb.denial? .dateIs = some .dateIsNot)
  obtain ⟨-, hdenies⟩ := h ⟨.inside "at" _ _, []⟩ ⟨.outside "at" _ _, []⟩ rfl rfl
  refine ⟨hdenies nofun (.object [("at", .string "soon")]), ?_⟩
  have hitem : ∃ j ∈ [Json.null, .string "1970-01-02"], j.instant?.isSome = true :=
    ⟨.string "1970-01-02", by simp, rfl⟩
  exact (hdenies nofun (.object [("at", .array [.null, .string "1970-01-02"])])).2 hitem

end Condition
end RecordFilter
