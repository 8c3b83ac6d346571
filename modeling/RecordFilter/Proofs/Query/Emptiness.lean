import Mathlib.Logic.Basic
import RecordFilter.Proofs.Query.Denial

/-!
# What counts as empty

A row that asks whether a field is empty compiles to four tests, each for one kind of nothing.  Two
of them, for null and for the empty text, are tests for a single value, and these hold of an array
when they hold of one of its items.  So an array is taken for empty because of one item in it.

* `Json.IsVoid` — absent, null, the empty text or the empty array.
* `Json.HasVoidItem` — an array with a null or an empty text in it, among whatever else.
* `Query.accepts_emptyAt_iff` — a query for what is empty finds both.
* `Condition.accepts_isEmpty_iff` — rows that ask for what is empty, and for what is not, and
  exactly when they mean what is void.
-/

set_option autoImplicit false

namespace RecordFilter

namespace Json

/-- Whether the value at a path is absent, null, the empty text or the empty array. -/
def IsVoid (value : Option Json) : Prop :=
  value = none ∨ value = some .null ∨ value = some (.string "") ∨ value = some (.array [])

/-- Whether the value at a path is an array in which a null or an empty text stands. -/
def HasVoidItem (value : Option Json) : Prop :=
  ∃ items, value = some (.array items) ∧ (.null ∈ items ∨ .string "" ∈ items)

/-- An array with something in it is not void. -/
theorem not_isVoid_of_hasVoidItem {value : Option Json} (h : HasVoidItem value) :
    ¬ IsVoid value := by
  obtain ⟨items, rfl, hitem⟩ := h
  rintro (hvalue | hvalue | hvalue | hvalue)
  case inr.inr.inr =>
    obtain rfl : items = [] := by simpa using hvalue
    simp at hitem
  all_goals simp at hvalue

/-- Where there is no such array, and only there, looking for one as well makes no difference. -/
theorem isVoid_or_hasVoidItem_iff {value : Option Json} :
    (IsVoid value ∨ HasVoidItem value ↔ IsVoid value) ↔ ¬ HasVoidItem value := by
  rw [or_iff_left_iff_imp]
  constructor
  · exact fun h hitem => not_isVoid_of_hasVoidItem hitem (h hitem)
  · exact fun h hitem => absurd hitem h

end Json

/-! ## The tests for nothing -/

namespace Operand

theorem equalsValue_null_iff {j : Json} : equalsValue .null j = true ↔ j = .null := by
  cases j <;> simp [equalsValue]

theorem equalsValue_text_iff {s : String} {j : Json} :
    equalsValue (.text s) j = true ↔ j = .string s := by
  cases j <;> simp [equalsValue, @eq_comm _ s]

/-- The test for the empty array is a test of the whole value. -/
theorem equalsAt_nil_iff {value : Option Json} :
    equalsAt value (.list []) = true ↔ value = some (.array []) := by
  cases value with
  | none => simp [equalsAt]
  | some j =>
    cases j with
    | array items => cases items <;> simp [equalsAt, isList, equalsValue, equalsItems]
    | null | bool b | number n | string s | object members => simp [equalsAt, equalsValue]

/-- The test for null holds of nothing, of null, and of an array with a null in it. -/
theorem equalsAt_null_iff {value : Option Json} :
    equalsAt value .null = true ↔
      value = none ∨ value = some .null ∨ ∃ items, value = some (.array items) ∧ .null ∈ items := by
  cases value with
  | none => simp [equalsAt]
  | some j =>
    cases j with
    | array items => simp [equalsAt, isList, equalsValue_null_iff]
    | null | bool b | number n | string s | object members => simp [equalsAt, equalsValue]

/-- The test for a text holds of the text, and of an array with the text in it. -/
theorem equalsAt_text_iff {value : Option Json} {s : String} :
    equalsAt value (.text s) = true ↔
      value = some (.string s) ∨ ∃ items, value = some (.array items) ∧ .string s ∈ items := by
  cases value with
  | none => simp [equalsAt]
  | some j =>
    cases j with
    | array items => simp [equalsAt, isList, equalsValue_text_iff]
    | string t => simp [equalsAt, equalsValue, @eq_comm _ s]
    | null | bool b | number n | object members => simp [equalsAt, equalsValue]

end Operand

/-- **What is found empty is void, or is an array with a void item.** -/
theorem Query.accepts_emptyAt_iff {path : String} {record : Json} :
    (emptyAt path).accepts record = true ↔
      Json.IsVoid (record.at? path) ∨ Json.HasVoidItem (record.at? path) := by
  have htests : (emptyAt path).accepts record = true ↔
      record.at? path = none ∨ Operand.equalsAt (record.at? path) .null = true ∨
        Operand.equalsAt (record.at? path) (.text "") = true ∨
        Operand.equalsAt (record.at? path) (.list []) = true := by
    simp [emptyAt, accepts, anyAccepts, Test.holds]
  rw [htests, Operand.equalsAt_null_iff, Operand.equalsAt_text_iff, Operand.equalsAt_nil_iff,
    Json.IsVoid, Json.HasVoidItem]
  simp only [and_or_left, exists_or, or_assoc, or_self_left]
  exact Iff.of_eq (by ac_rfl)

/-- What is found filled is what is not found empty. -/
theorem Query.accepts_filledAt (path : String) (record : Json) :
    (filledAt path).accepts record = !(emptyAt path).accepts record := by
  have hdenies : (emptyAt path).accepts record = !(filledAt path).accepts record :=
    opposed_filledAt.denies record
  rw [hdenies, Bool.not_not]

/-! ## Rows -/

namespace Condition

variable {settings : Settings} {base : String} {c : Condition}

theorem query_asking_isEmpty (hfield : c.isBlank = false) :
    (c.asking .isEmpty).query settings base =
      .ok ⟨.emptyAt (Path.under base (Text.trim c.field)), []⟩ :=
  query_of_quietly (c := c.asking .isEmpty) hfield rfl rfl

theorem query_asking_isNotEmpty (hfield : c.isBlank = false) :
    (c.asking .isNotEmpty).query settings base =
      .ok ⟨.filledAt (Path.under base (Text.trim c.field)), []⟩ :=
  query_of_quietly (c := c.asking .isNotEmpty) hfield rfl rfl

/-- **What is empty is void, but for arrays with a void item.**  A row that asks whether a field is
empty accepts the records whose value there is absent, null, the empty text or the empty array, and
besides these the arrays with a null or an empty text in them; a row that asks whether it is not
empty accepts all others.  So the two rows mean what is void, and what is not, of exactly those
records whose value is no such array. -/
theorem accepts_isEmpty_iff (settings : Settings) (base : String) (c : Condition)
    (hfield : c.isBlank = false) :
    ∃ empty filled : Noted Query,
      (c.asking .isEmpty).query settings base = .ok empty ∧
      (c.asking .isNotEmpty).query settings base = .ok filled ∧
      ∀ (record : Json) (value : Option Json),
        record.at? (Path.under base (Text.trim c.field)) = value →
        (empty.value.accepts record = true ↔ Json.IsVoid value ∨ Json.HasVoidItem value) ∧
        (filled.value.accepts record = true ↔ ¬ (Json.IsVoid value ∨ Json.HasVoidItem value)) ∧
        ((empty.value.accepts record = true ↔ Json.IsVoid value) ↔ ¬ Json.HasVoidItem value) ∧
        ((filled.value.accepts record = true ↔ ¬ Json.IsVoid value) ↔
          ¬ Json.HasVoidItem value) := by
  refine ⟨_, _, query_asking_isEmpty hfield, query_asking_isNotEmpty hfield, ?_⟩
  rintro record value rfl
  have hempty := @Query.accepts_emptyAt_iff (Path.under base (Text.trim c.field)) record
  refine ⟨hempty, ?_, ?_, ?_⟩
  · rw [Query.accepts_filledAt, Bool.not_eq_true', Bool.eq_false_iff, ne_eq, hempty]
  · rw [hempty, Json.isVoid_or_hasVoidItem_iff]
  · rw [Query.accepts_filledAt, Bool.not_eq_true', Bool.eq_false_iff, ne_eq, hempty, not_iff_not,
      Json.isVoid_or_hasVoidItem_iff]

/-- A field that is not there is empty.  An array of an empty array is not: nothing in it is null or
an empty text. -/
theorem accepts_isEmpty_iff_nested_array :
    isBlank ⟨"c", "tags", .blank, .nothing⟩ = false ∧
    ∃ empty filled : Noted Query,
      (asking ⟨"c", "tags", .blank, .nothing⟩ .isEmpty).query .atEpoch "" = .ok empty ∧
      (asking ⟨"c", "tags", .blank, .nothing⟩ .isNotEmpty).query .atEpoch "" = .ok filled ∧
      empty.value.accepts (.object []) = true ∧
      filled.value.accepts (.object [("tags", .array [.array []])]) = true := by
  have hfield : isBlank ⟨"c", "tags", .blank, .nothing⟩ = false := rfl
  obtain ⟨empty, filled, hempty, hfilled, hrecords⟩ :=
    accepts_isEmpty_iff .atEpoch "" ⟨"c", "tags", .blank, .nothing⟩ hfield
  obtain ⟨habsent, -⟩ := hrecords (.object []) none rfl
  obtain ⟨-, hnested, -⟩ := hrecords (.object [("tags", .array [.array []])])
    (some (.array [.array []])) rfl
  refine ⟨hfield, empty, filled, hempty, hfilled, habsent.2 (Or.inl (Or.inl rfl)), hnested.2 ?_⟩
  simp [Json.IsVoid, Json.HasVoidItem]

/-- An array of one empty text is found empty, and is none of the four kinds of nothing. -/
theorem isEmpty_accepts_array_of_empty_text :
    ∃ empty filled : Noted Query,
      (asking ⟨"c", "email", .blank, .nothing⟩ .isEmpty).query .atEpoch "" = .ok empty ∧
      (asking ⟨"c", "email", .blank, .nothing⟩ .isNotEmpty).query .atEpoch "" = .ok filled ∧
      ¬ Json.IsVoid (Json.at? (.object [("email", .array [.string ""])]) "email") ∧
      empty.value.accepts (.object [("email", .array [.string ""])]) = true ∧
      filled.value.accepts (.object [("email", .array [.string ""])]) = false := by
  have hvalue : Json.at? (.object [("email", .array [.string ""])]) "email" =
      some (.array [.string ""]) := rfl
  refine ⟨_, _, query_asking_isEmpty rfl, query_asking_isNotEmpty rfl, ?_, rfl, rfl⟩
  rw [hvalue]
  simp [Json.IsVoid]

end Condition
end RecordFilter
