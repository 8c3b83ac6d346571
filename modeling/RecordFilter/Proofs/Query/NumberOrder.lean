import RecordFilter.Catalog.Standard
import RecordFilter.Proofs.Query.Denial
import RecordFilter.Proofs.Query.Values
import RecordFilter.Proofs.Query.WholeNumber

/-!
# Numbers in order

Five verbs compare the number of a record with the number of a row, and a sixth one asks for a range
of numbers.  They do not come to it in the same way.  *Equals* reads its value by the kind of the
field and tests for equality, which is a test of any value and takes a missing one for null; the
others read any value as a number and test the order.  This file says that all six go by one order,
the order of the numbers themselves, at every boundary and in every item of an array.

* `Literal.NamesNumber` — a value that stands for a number in a field.
* `Verb.ofComparison`, `Query.ofComparison` — less, equal and greater.
* `Query.accepts_atLeast`, `Query.accepts_atMost` — the two inclusive comparisons, for every record.
* `Query.accepts_ofComparison_iff` — a number is accepted by the one that says how it compares.
* `Verb.compilesTo_comparisons` — the six verbs for all values that stand for numbers.
-/

set_option autoImplicit false

namespace RecordFilter

/-! ## Tests of numbers -/

namespace Operand

variable {x : FiniteDouble}

/-- A number compares with a number as their values do. -/
theorem compareValue?_number {n : Json.Number} {y : FiniteDouble} (hn : n.toDouble = .finite y) :
    compareValue? (.number n) (.number (.finite x)) =
      some (compare y.signedUnits x.signedUnits) := by
  show n.toDouble.compare? (.finite x) = _
  rw [hn, ← FiniteDouble.compare_key]
  rfl

/-- **Equality of numbers is the middle of their order**, for a stored value of any kind. -/
theorem equalsValue_number (x : FiniteDouble) (j : Json) :
    (number (.finite x)).equalsValue j = (compareValue? j (.number (.finite x)) == some .eq) := by
  cases j <;> simp [equalsValue, compareValue?, Double.equals]

theorem isAtMost_number (x : FiniteDouble) (j : Json) :
    (number (.finite x)).isAtMost j =
      ((number (.finite x)).isBelow j || (number (.finite x)).equalsValue j) := by
  rw [isAtMost, isBelow, equalsValue_number]
  rcases compareValue? j (number (.finite x)) with _ | place
  · rfl
  · cases place <;> rfl

theorem isAtLeast_number (x : FiniteDouble) (j : Json) :
    (number (.finite x)).isAtLeast j =
      ((number (.finite x)).isAbove j || (number (.finite x)).equalsValue j) := by
  rw [isAtLeast, isAbove, equalsValue_number]
  rcases compareValue? j (number (.finite x)) with _ | place
  · rfl
  · cases place <;> rfl

/-- A number is no list and is not null, so the value at a path equals it when the value does or an
item of it. -/
theorem equalsAt_number (x : FiniteDouble) (value : Option Json) :
    (number (.finite x)).equalsAt value = anyItem value (number (.finite x)).equalsValue := by
  rcases value with _ | j
  · rfl
  · cases j <;> rfl

end Operand

/-! ## Queries for comparisons -/

namespace Query

/-- The query for what is less than a number, equal to it or greater. -/
def ofComparison (path : String) (x : FiniteDouble) : Ordering → Query
  | .lt => .field path (.below (.number (.finite x)))
  | .eq => .field path (.equals (.number (.finite x)))
  | .gt => .field path (.above (.number (.finite x)))

variable {path : String} {x low high : FiniteDouble} {record : Json}

/-- **At least means greater or equal**, whatever the record holds. -/
theorem accepts_atLeast : (field path (.atLeast (.number (.finite x)))).accepts record =
    ((ofComparison path x .gt).accepts record || (ofComparison path x .eq).accepts record) := by
  simp only [ofComparison, accepts, Test.holds, Operand.equalsAt_number, anyItem_or]
  exact congrArg _ (funext (Operand.isAtMost_number x))

/-- **At most means less or equal**, whatever the record holds. -/
theorem accepts_atMost : (field path (.atMost (.number (.finite x)))).accepts record =
    ((ofComparison path x .lt).accepts record || (ofComparison path x .eq).accepts record) := by
  simp only [ofComparison, accepts, Test.holds, Operand.equalsAt_number, anyItem_or]
  exact congrArg _ (funext (Operand.isAtLeast_number x))

/-- **A number is accepted by the comparison that says how it compares.** -/
theorem accepts_ofComparison_iff {n : Json.Number} {y : FiniteDouble}
    (hat : record.at? path = some (.number n)) (hn : n.toDouble = .finite y) {place : Ordering} :
    (ofComparison path x place).accepts record = true ↔
      compare y.signedUnits x.signedUnits = place := by
  have hcompare := Operand.compareValue?_number (x := x) hn
  cases place with
  | lt => simp [ofComparison, accepts, Test.holds, hat, anyItem, Operand.isAbove, hcompare]
  | eq =>
    simp only [ofComparison, accepts, Test.holds, hat, Operand.equalsAt_number, anyItem,
      Operand.equalsValue_number, hcompare, beq_iff_eq, Option.some.injEq]
  | gt => simp [ofComparison, accepts, Test.holds, hat, anyItem, Operand.isBelow, hcompare]

/-- What lies in a range passes the tests of both of its ends.  In an array one item passes both. -/
theorem accepts_ends_of_inside
    (h : (inside path (.number (.finite low)) (.number (.finite high))).accepts record = true) :
    (field path (.atLeast (.number (.finite low)))).accepts record = true ∧
      (field path (.atMost (.number (.finite high)))).accepts record = true := by
  have hsplit : ∀ j : Json, (Operand.isAtMost (.number (.finite low)) j &&
      Operand.isAtLeast (.number (.finite high)) j) = true →
        Operand.isAtMost (.number (.finite low)) j = true ∧
          Operand.isAtLeast (.number (.finite high)) j = true :=
    fun j => Bool.and_eq_true_iff.1
  simp only [inside, accepts, Test.holds] at h ⊢
  exact ⟨anyItem_of_imp (fun j hj => (hsplit j hj).1) h,
    anyItem_of_imp (fun j hj => (hsplit j hj).2) h⟩

/-- **A number is accepted by a range from its lower end to its upper end**, both included. -/
theorem accepts_inside_iff {n : Json.Number} {y : FiniteDouble}
    (hat : record.at? path = some (.number n)) (hn : n.toDouble = .finite y) :
    (inside path (.number (.finite low)) (.number (.finite high))).accepts record = true ↔
      low.signedUnits ≤ y.signedUnits ∧ y.signedUnits ≤ high.signedUnits := by
  simp only [inside, accepts, Test.holds, hat, anyItem, Operand.isAtMost, Operand.isAtLeast,
    Operand.compareValue?_number hn, Option.any_some, Bool.and_eq_true, Int.isGE_compare,
    Int.isLE_compare]

/-- A value that is no array passes the test of a range when it passes those of both ends. -/
theorem accepts_inside_of_ends (hat : ∀ items, record.at? path ≠ some (.array items))
    (hlow : (field path (.atLeast (.number (.finite low)))).accepts record = true)
    (hhigh : (field path (.atMost (.number (.finite high)))).accepts record = true) :
    (inside path (.number (.finite low)) (.number (.finite high))).accepts record = true := by
  simp only [inside, accepts, Test.holds] at hlow hhigh ⊢
  rcases hvalue : record.at? path with _ | j
  · simp [hvalue, anyItem] at hlow
  · cases j with
    | array items => exact absurd hvalue (hat items)
    | null | bool b | number n | string s | object members =>
      rw [hvalue] at hlow hhigh
      exact Bool.and_eq_true_iff.2 ⟨hlow, hhigh⟩

end Query

/-! ## Verbs for numbers -/

/-- Whether a value stands for a number in a field. -/
inductive Literal.NamesNumber (catalog : Option Catalog) (field : String) : Literal → Prop where
  /-- A number does, unless the field is listed as a boolean. -/
  | number (n : Json.Number)
      (hkind : ∀ listed ∈ catalog, (listed.kindOf field).basis ≠ .boolean) :
      NamesNumber catalog field (.number n)
  /-- In a field that is listed as a number, all that reads as one does. -/
  | readAs (value : Literal) {listed : Catalog} (hlisted : catalog = some listed)
      (hkind : (listed.kindOf field).basis = .number) (hread : value.number?.isSome) :
      NamesNumber catalog field value

/-- **The two ways of reading a value meet in one number**: as the operand of *equals*, by the kind
of the field, and as a number. -/
theorem Literal.NamesNumber.exists_operand? {catalog : Option Catalog} {field : String}
    {value : Literal} (h : value.NamesNumber catalog field) :
    ∃ x, value.number? = some x ∧ value.operand? catalog field = some (.number (.finite x)) := by
  cases h with
  | number n hkind =>
    obtain ⟨x, hx⟩ := n.exists_toDouble_eq
    exact ⟨x, by rw [number?, hx]; rfl, operand?_number hkind hx⟩
  | readAs value hlisted hkind hread =>
    obtain ⟨x, hx⟩ := Option.isSome_iff_exists.1 hread
    exact ⟨x, hx, by simp [operand?, hlisted, hkind, hx]⟩

namespace Verb

/-- The verb that asks for what is less than a number, equal to it or greater. -/
def ofComparison : Ordering → Verb
  | .lt => lessThan
  | .eq => equals
  | .gt => greaterThan

variable {settings : Settings} {base field : String} {value : Literal} {x : FiniteDouble}

/-- What reads as a number is not blank, so it is a value that is asked with. -/
theorem filter_single?_of_number? (hx : value.number? = some x) :
    ((Argument.single value).single?.filter fun value => !value.isBlank) = some value := by
  refine Argument.filter_single?_of_not_isBlank ?_
  cases hblank : value.isBlank with
  | false => rfl
  | true => rw [Literal.number?_of_isBlank hblank] at hx; exact nomatch hx

/-- A verb for a number makes its test of the number that its value reads as. -/
theorem compilesTo_of_number? (verb : Verb) (test : Operand → Test)
    (hverb : ∀ path argument, verb.query? settings (Text.trim field) path argument =
      Query.quietly (Query.ofNumber? path
        (argument.single?.filter fun value => !value.isBlank) test))
    (hx : value.number? = some x) :
    verb.CompilesTo settings base field (.single value)
      (.atField base field fun path => .field path (test (.number (.finite x)))) := by
  refine compilesTo_atField fun path => ?_
  rw [hverb, filter_single?_of_number? hx, Query.ofNumber?, Option.bind_some, hx]
  rfl

theorem compilesTo_ofComparison (hx : value.number? = some x)
    (hoperand : value.operand? settings.catalog (Text.trim field) = some (.number (.finite x)))
    (place : Ordering) :
    (ofComparison place).CompilesTo settings base field (.single value)
      (.atField base field fun path => .ofComparison path x place) := by
  cases place with
  | lt => exact compilesTo_of_number? lessThan .below (fun _ _ => rfl) hx
  | gt => exact compilesTo_of_number? greaterThan .above (fun _ _ => rfl) hx
  | eq =>
    refine compilesTo_atField fun path => ?_
    simp only [ofComparison, query?, filter_single?_of_number? hx, Option.bind_some, hoperand]
    rfl

theorem compilesTo_between {lower upper : Literal} {low high : FiniteDouble}
    (hlow : lower.number? = some low) (hhigh : upper.number? = some high) :
    between.CompilesTo settings base field (.range (some lower) (some upper))
      (.atField base field fun path =>
        .inside path (.number (.finite low)) (.number (.finite high))) := by
  refine compilesTo_atField fun path => ?_
  show Query.quietly (Query.ofNumbers? (some (lower, upper)) (Query.inside path)) = _
  rw [Query.ofNumbers?_eq_map, Query.numbers?, Option.bind_some, hlow, Option.bind_some, hhigh]
  rfl

/-- **The verbs for numbers go by one order.**  Take a field and a value that stands for a number in
it.  The rows with the five comparisons compile.  Of any record, *greater than or equal* accepts
what *greater than* or *equals* accepts, and *less than or equal* what *less than* or *equals*
accepts.  Of a record with a number in the field just one of *less than*, *equals* and *greater
than* accepts it, the one that says how the two numbers compare.  And for any two values that read
as numbers, *between* compiles too; what it accepts *greater than or equal* to the one and *less
than or equal* to the other accept as well, and unless the record has an array in the field it
accepts whatever both accept: of the numbers, those from the one to the other. -/
theorem compilesTo_comparisons (settings : Settings) (base : String) {field : String}
    (hfield : Text.isBlank field = false) :
    (∀ value : Literal, value.NamesNumber settings.catalog (Text.trim field) →
      ∃ (x : FiniteDouble) (asked : Ordering → Query) (atLeast atMost : Query),
        value.number? = some x ∧
        (∀ place, (ofComparison place).CompilesTo settings base field (.single value)
          (asked place)) ∧
        greaterThanOrEqual.CompilesTo settings base field (.single value) atLeast ∧
        lessThanOrEqual.CompilesTo settings base field (.single value) atMost ∧
        ∀ record : Json,
          (atLeast.accepts record = true ↔
            (asked .gt).accepts record = true ∨ (asked .eq).accepts record = true) ∧
          (atMost.accepts record = true ↔
            (asked .lt).accepts record = true ∨ (asked .eq).accepts record = true) ∧
          ∀ n : Json.Number,
            record.at? (Path.under base (Text.trim field)) = some (.number n) →
            (∃! place, (asked place).accepts record = true) ∧
            ∃ y, n.toDouble = .finite y ∧ ∀ place,
              (asked place).accepts record = true ↔
                compare y.signedUnits x.signedUnits = place) ∧
    ∀ (lower upper : Literal) (low high : FiniteDouble),
      lower.number? = some low → upper.number? = some high →
      ∃ inside atLeast atMost : Query,
        between.CompilesTo settings base field (.range (some lower) (some upper)) inside ∧
        greaterThanOrEqual.CompilesTo settings base field (.single lower) atLeast ∧
        lessThanOrEqual.CompilesTo settings base field (.single upper) atMost ∧
        ∀ record : Json,
          (inside.accepts record = true →
            atLeast.accepts record = true ∧ atMost.accepts record = true) ∧
          ((∀ items,
              record.at? (Path.under base (Text.trim field)) ≠ some (.array items)) →
            atLeast.accepts record = true → atMost.accepts record = true →
              inside.accepts record = true) ∧
          ∀ n : Json.Number,
            record.at? (Path.under base (Text.trim field)) = some (.number n) →
            ∃ y, n.toDouble = .finite y ∧
              (inside.accepts record = true ↔
                low.signedUnits ≤ y.signedUnits ∧ y.signedUnits ≤ high.signedUnits) := by
  have hat : ∀ query : String → Query,
      Query.atField base field query = query (Path.under base (Text.trim field)) :=
    Query.atField_of_named hfield base
  constructor
  · intro value hvalue
    obtain ⟨x, hx, hoperand⟩ := hvalue.exists_operand?
    refine ⟨x, _, _, _, hx, compilesTo_ofComparison hx hoperand,
      compilesTo_of_number? greaterThanOrEqual .atLeast (fun _ _ => rfl) hx,
      compilesTo_of_number? lessThanOrEqual .atMost (fun _ _ => rfl) hx, fun record => ?_⟩
    simp only [hat]
    refine ⟨?_, ?_, fun n hrecord => ?_⟩
    · rw [Query.accepts_atLeast, Bool.or_eq_true]
    · rw [Query.accepts_atMost, Bool.or_eq_true]
    · obtain ⟨y, hy⟩ := n.exists_toDouble_eq
      have haccepts : ∀ place, (Query.ofComparison (Path.under base (Text.trim field)) x
          place).accepts record = true ↔ compare y.signedUnits x.signedUnits = place :=
        fun place => Query.accepts_ofComparison_iff hrecord hy
      exact ⟨⟨_, (haccepts _).2 rfl, fun place h => ((haccepts place).1 h).symm⟩, y, hy, haccepts⟩
  · intro lower upper low high hlow hhigh
    refine ⟨_, _, _, compilesTo_between hlow hhigh,
      compilesTo_of_number? greaterThanOrEqual .atLeast (fun _ _ => rfl) hlow,
      compilesTo_of_number? lessThanOrEqual .atMost (fun _ _ => rfl) hhigh, fun record => ?_⟩
    simp only [hat]
    refine ⟨Query.accepts_ends_of_inside, Query.accepts_inside_of_ends, fun n hrecord => ?_⟩
    obtain ⟨y, hy⟩ := n.exists_toDouble_eq
    exact ⟨y, hy, Query.accepts_inside_iff hrecord hy⟩

/-- The age that the text " 30 " asks for is the age 30 of a record: it equals the one, is at least
the one, and lies in the range from the one to itself. -/
theorem compilesTo_comparisons_age :
    Text.isBlank " age " = false ∧
    ∃ settings : Settings, settings.catalog = some RecordKind.people.catalog ∧
      (Literal.text " 30 ").NamesNumber settings.catalog (Text.trim " age ") ∧
      (∃ equal atLeast : Query,
        equals.CompilesTo settings "" " age " (.single (.text " 30 ")) equal ∧
        greaterThanOrEqual.CompilesTo settings "" " age " (.single (.text " 30 ")) atLeast ∧
        equal.accepts (.object [("age", .number (.integer 30 (by decide)))]) = true ∧
        atLeast.accepts (.object [("age", .number (.integer 30 (by decide)))]) = true) ∧
      ∃ inside : Query,
        between.CompilesTo settings "" " age "
          (.range (some (.text " 30 ")) (some (.text " 30 "))) inside ∧
        inside.accepts (.object [("age", .number (.integer 30 (by decide)))]) = true := by
  let settings : Settings := ⟨Settings.atEpoch.now, .default, some RecordKind.people.catalog⟩
  have hfield : Text.isBlank " age " = false := rfl
  have hread : (Literal.text " 30 ").number?.isSome := by decide +kernel
  have hsame : (Literal.text " 30 ").number? =
      (Json.Number.integer 30 (by decide)).toDouble.finite? := by decide +kernel
  have hnames : (Literal.text " 30 ").NamesNumber settings.catalog (Text.trim " age ") :=
    .readAs _ rfl rfl hread
  obtain ⟨hcompare, hrange⟩ := compilesTo_comparisons settings "" hfield
  obtain ⟨x, asked, atLeast, atMost, hx, hasked, hatLeast, -, hrecords⟩ := hcompare _ hnames
  have hvalue : ∀ y, (Json.Number.integer 30 (by decide)).toDouble = .finite y → y = x := by
    intro y hy
    rw [hx, hy] at hsame
    exact (Option.some.inj hsame).symm
  obtain ⟨hor, -, hnumber⟩ := hrecords (.object [("age", .number (.integer 30 (by decide)))])
  obtain ⟨-, y, hy, hplace⟩ := hnumber (.integer 30 (by decide)) rfl
  have hequal := (hplace .eq).2 (compare_eq_iff_eq.2 (by rw [hvalue y hy]))
  obtain ⟨inside, lowest, highest, hinside, -, -, hin⟩ := hrange _ _ _ _ hx hx
  obtain ⟨-, -, hnumber'⟩ := hin (.object [("age", .number (.integer 30 (by decide)))])
  obtain ⟨y', hy', hiff⟩ := hnumber' (.integer 30 (by decide)) rfl
  exact ⟨hfield, settings, rfl, hnames, ⟨_, _, hasked .eq, hatLeast, hequal, hor.2 (Or.inr hequal)⟩,
    inside, hinside, hiff.2 (by rw [hvalue y' hy']; exact ⟨le_rfl, le_rfl⟩)⟩

end Verb
end RecordFilter
