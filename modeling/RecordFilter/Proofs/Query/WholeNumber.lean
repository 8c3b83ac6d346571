import RecordFilter.Proofs.Number.Rounding
import RecordFilter.Proofs.Query.Row
import RecordFilter.Query.OfFilter

/-!
# Equality of whole numbers

Numbers are compared as doubles, those of a row and those of a record.  So a row with a whole number
accepts the records with a whole number that has the same double, and writes that double into the
document.  Below `2 ^ 53`, and for all integers of 53 significant bits, this is equality; other
integers are equal to those around them.

* `Condition.askingFor` — a row with a verb of one value.
* `Condition.accepts_integer_iff` — what the rows *equals* and *is in* accept for an integer.
* `Condition.equals_accepts_next_integer` — two integers that a row takes for one.
-/

set_option autoImplicit false

namespace RecordFilter

/-! ## Operands for integers -/

/-- Unless the field is listed as a boolean, a finite number stands for itself. -/
theorem Literal.operand?_number {catalog : Option Catalog} {field : String}
    (hkind : ∀ listed ∈ catalog, (listed.kindOf field).basis ≠ .boolean) {number : Json.Number}
    {x : FiniteDouble} (hx : number.toDouble = .finite x) :
    (Literal.number number).operand? catalog field = some (.number (.finite x)) := by
  have hvalue : (Literal.number number).number? = some x := by
    rw [number?, hx]
    rfl
  rw [operand?]
  split
  · rw [hvalue]
    rfl
  · rename_i hboolean
    obtain ⟨listed, hlisted, hbasis⟩ := Option.map_eq_some_iff.1 hboolean
    exact absurd hbasis (hkind listed hlisted)
  · rw [Operand.ofLiteral, hx]

/-- A record holds an integer that is equal to the double of another one when both round to the same
one. -/
theorem Operand.equalsAt_integer_iff {m n : Int} (hm : FitsWord m) (hn : FitsWord n) :
    (Operand.number (.ofInt n)).equalsAt (some (.number (.integer m hm))) = true ↔
      Double.rounded n = Double.rounded m := by
  have hequals : (Operand.number (.ofInt n)).equalsAt (some (.number (.integer m hm))) =
      (Double.ofInt m).equals (.ofInt n) := rfl
  rw [hequals, Double.equals_ofInt_iff hm hn, eq_comm]

/-! ## Rows -/

namespace Condition

/-- The same row, asking for a verb of one value. -/
def askingFor (c : Condition) (verb : Verb) (value : Literal) : Condition :=
  { c with operator := .known verb, argument := .single value }

variable {settings : Settings} {base : String} {c : Condition}

theorem query_askingFor_equals (hfield : c.isBlank = false) {value : Literal} {x : Operand}
    (hvalue : value.isBlank = false)
    (hoperand : value.operand? settings.catalog (Text.trim c.field) = some x) :
    (c.askingFor .equals value).query settings base =
      .ok ⟨.field (Path.under base (Text.trim c.field)) (.equals x), []⟩ := by
  refine query_of_quietly (c := c.askingFor .equals value) hfield rfl ?_
  simp [askingFor, Verb.query?, Argument.single?, Option.filter, hvalue, hoperand]

theorem query_askingFor_isIn (hfield : c.isBlank = false) {value : Literal} {x : Operand}
    (hoperand : value.operand? settings.catalog (Text.trim c.field) = some x) :
    (c.askingFor .isIn (.list [value])).query settings base =
      .ok ⟨.field (Path.under base (Text.trim c.field)) (.oneOf [x]), []⟩ := by
  have hoperands : (Literal.list [value]).operands? settings.catalog (Text.trim c.field) =
      some [x] := by
    simp [Literal.operands?, Literal.items, hoperand]
  refine query_of_quietly (c := c.askingFor .isIn (.list [value])) hfield rfl ?_
  simp [askingFor, Verb.query?, Argument.single?, Option.filter, Literal.isBlank, hoperands]

/-- **Whole numbers are equal when they have the same 53 leading bits, rounded.**  Unless the
catalog lists the field as a boolean, a row that asks for an integer, or for one in a list of this
integer, compiles.  What it writes into the document is the integer, rounded to 53 significant bits:
the nearest integer that has no more than these, and the integer itself just when it has no more.
It accepts a record with an integer at the field when the two integers are rounded to the same one.
If one of them is below `2 ^ 53` in size, or if both have no more than 53 significant bits, that is
when they are the same. -/
theorem accepts_integer_iff (settings : Settings) (base : String) (c : Condition)
    (hfield : c.isBlank = false)
    (hkind : ∀ catalog ∈ settings.catalog, (catalog.kindOf (Text.trim c.field)).basis ≠ .boolean)
    {n : Int} (hn : FitsWord n) :
    ∃ equal among : Noted Query,
      (c.askingFor .equals (.number (.integer n hn))).query settings base = .ok equal ∧
      (c.askingFor .isIn (.list [.number (.integer n hn)])).query settings base = .ok among ∧
      (∃ operand : Json.Number,
        equal.value.document = .object
          [(Path.under base (Text.trim c.field), .object [("$eq", .number operand)])] ∧
        operand.whole? = some (Double.rounded n) ∧
        (operand.whole? = some n ↔ Double.Holds n)) ∧
      (Double.Holds (Double.rounded n) ∧
        ∀ k : Int, Double.Holds k → (Double.rounded n - n).natAbs ≤ (k - n).natAbs) ∧
      ∀ (m : Int) (hm : FitsWord m) (record : Json),
        record.at? (Path.under base (Text.trim c.field)) = some (.number (.integer m hm)) →
        (equal.value.accepts record = true ↔ Double.rounded n = Double.rounded m) ∧
        (among.value.accepts record = true ↔ Double.rounded n = Double.rounded m) ∧
        (n.natAbs < 2 ^ 53 ∨ m.natAbs < 2 ^ 53 ∨ Double.Holds n ∧ Double.Holds m →
          (Double.rounded n = Double.rounded m ↔ n = m)) := by
  obtain ⟨x, hx, -, hwhole⟩ := Double.exists_ofInt_eq hn
  have hoperand : (Literal.number (.integer n hn)).operand? settings.catalog (Text.trim c.field) =
      some (.number (.finite x)) := Literal.operand?_number hkind hx
  refine ⟨_, _, query_askingFor_equals hfield rfl hoperand, query_askingFor_isIn hfield hoperand,
    ?_, ⟨Double.holds_rounded n, fun k hk => Double.natAbs_rounded_sub_le hk n⟩, ?_⟩
  · obtain ⟨operand, hjson, hsame⟩ := x.exists_toJson_eq
    refine ⟨operand, ?_, hsame.trans hwhole, ?_⟩
    · rw [Query.document, Test.toJson, Operand.toJson, hjson]
    · rw [hsame, hwhole, Option.some.injEq, Double.rounded_eq_self_iff]
  · intro m hm record hrecord
    have hequals := Operand.equalsAt_integer_iff hm hn
    rw [hx] at hequals
    refine ⟨?_, ?_, Double.rounded_eq_rounded_iff⟩
    · rw [Query.accepts, hrecord, Test.holds, hequals]
    · rw [Query.accepts, hrecord, Test.holds, List.any_cons, List.any_nil, Bool.or_false, hequals]

/-- A row that asks for an integer of 54 significant bits accepts records that hold it, or what it
is rounded to, but none that holds a short one. -/
theorem accepts_integer_iff_fifty_four_bits :
    isBlank ⟨"c", "id", .blank, .nothing⟩ = false ∧
    ∃ equal among : Noted Query,
      (askingFor ⟨"c", "id", .blank, .nothing⟩ .equals
        (.number (.integer 18014398509481986 (by decide)))).query .atEpoch "" = .ok equal ∧
      (askingFor ⟨"c", "id", .blank, .nothing⟩ .isIn
        (.list [.number (.integer 18014398509481986 (by decide))])).query .atEpoch "" = .ok among ∧
      among.value.accepts
        (.object [("id", .number (.integer 18014398509481986 (by decide)))]) = true ∧
      equal.value.accepts
        (.object [("id", .number (.integer 18014398509481984 (by decide)))]) = true ∧
      equal.value.accepts (.object [("id", .number (.integer 30 (by decide)))]) = false := by
  have hfield : isBlank ⟨"c", "id", .blank, .nothing⟩ = false := rfl
  have hkind : ∀ catalog ∈ Settings.atEpoch.catalog,
      (catalog.kindOf (Text.trim "id")).basis ≠ .boolean := by
    intro catalog hcatalog
    cases hcatalog
  obtain ⟨equal, among, hequal, hamong, -, -, hrecords⟩ :=
    accepts_integer_iff .atEpoch "" ⟨"c", "id", .blank, .nothing⟩ hfield hkind
      (n := 18014398509481986) (by decide)
  obtain ⟨-, hsame, -⟩ := hrecords 18014398509481986 (by decide)
    (.object [("id", .number (.integer 18014398509481986 (by decide)))]) rfl
  obtain ⟨hnear, -⟩ := hrecords 18014398509481984 (by decide)
    (.object [("id", .number (.integer 18014398509481984 (by decide)))]) rfl
  obtain ⟨hshort, -, hexact⟩ := hrecords 30 (by decide)
    (.object [("id", .number (.integer 30 (by decide)))]) rfl
  refine ⟨hfield, equal, among, hequal, hamong, hsame.2 rfl, hnear.2 (by decide), ?_⟩
  rw [Bool.eq_false_iff, ne_eq, hshort, hexact (Or.inr (Or.inl (by decide)))]
  decide

/-- The first integer that no double holds is taken for the one before it. -/
theorem equals_accepts_integer_before :
    ∃ equal : Noted Query,
      (askingFor ⟨"c", "id", .blank, .nothing⟩ .equals
        (.number (.integer 9007199254740993 (by decide)))).query .atEpoch "" = .ok equal ∧
      equal.value.accepts
        (.object [("id", .number (.integer 9007199254740992 (by decide)))]) = true ∧
      ∃ operand : Json.Number,
        equal.value.document = .object [("id", .object [("$eq", .number operand)])] ∧
        operand.whole? = some 9007199254740992 := by
  have hrounded : Double.rounded 9007199254740993 = 9007199254740992 := by decide
  have hself : Double.rounded 9007199254740992 = 9007199254740992 := by decide
  obtain ⟨x, hx, -, hwhole⟩ := Double.exists_ofInt_eq (n := 9007199254740993) (by decide)
  have hequals := Operand.equalsAt_integer_iff (m := 9007199254740992) (n := 9007199254740993)
    (by decide) (by decide)
  rw [hx, hrounded, hself] at hequals
  have hoperand : (Literal.number (.integer 9007199254740993 (by decide))).operand? none "id" =
      some (.number (.finite x)) := by
    refine Literal.operand?_number ?_ hx
    intro listed hlisted
    cases hlisted
  refine ⟨_, query_askingFor_equals rfl rfl hoperand, hequals.2 rfl, ?_⟩
  obtain ⟨operand, hjson, hsame⟩ := x.exists_toJson_eq
  refine ⟨operand, ?_, by rw [hsame, hwhole, hrounded]⟩
  rw [Query.document, Test.toJson, Operand.toJson, hjson]
  rfl

end Condition
end RecordFilter
