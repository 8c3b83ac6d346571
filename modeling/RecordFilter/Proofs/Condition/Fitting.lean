import RecordFilter.Proofs.Condition.Canonical

/-!
# Values that fit their operator

A row that is edited always has as many values as its operator takes: choosing a field or an operator
gives it such values, and setting others is refused.  Rows that are loaded or made otherwise may have
too many values or too few, until a field or an operator is chosen.

* `Condition.Fits` — a row has as many values as its operator takes.
* `Condition.Edit.Chooses` — an edit chooses a field or an operator.  After it any row fits.
* `Condition.Fits.edited`, `Condition.Fits.editedBy` — edits keep that a row fits.
* `Condition.fits_editedBy` — so rows fit all the while, and what the edits leave alone.
-/

set_option autoImplicit false

namespace RecordFilter
namespace Condition

/-- Whether a row has as many values as its operator takes. -/
def Fits (c : Condition) : Prop := c.argument.arity = c.operator.arity

instance (c : Condition) : Decidable c.Fits :=
  inferInstanceAs (Decidable (c.argument.arity = c.operator.arity))

/-- Whether an edit chooses a field or an operator. -/
inductive Edit.Chooses : Edit → Prop
  | field (field : Field) : Chooses (.field field)
  | operator (operator : Operator) : Chooses (.operator operator)

variable {c : Condition}

/-! ## What each edit does -/

theorem fits_blank (id : String) : (blank id).Fits := rfl

theorem fits_withField (field : Field) : (c.withField field).Fits :=
  Argument.arity_initial _

/-- Values that fit the operator that is chosen stay as they are. -/
theorem withOperator_of_arity_eq {operator : Operator}
    (h : c.argument.arity = operator.arity) :
    c.withOperator operator = { c with operator := operator } := by
  rw [withOperator, if_pos h]

theorem fits_withOperator (operator : Operator) : (c.withOperator operator).Fits := by
  by_cases h : c.argument.arity = operator.arity
  · rw [withOperator_of_arity_eq h]
    exact h
  · rw [withOperator, if_neg h]
    exact Argument.arity_initial operator.arity

/-- Values that do not fit are refused. -/
theorem withArgument_of_arity_ne {argument : Argument} (h : c.operator.arity ≠ argument.arity) :
    (c.withArgument argument).value = c := by
  rw [withArgument, if_neg h, Noted.debug]

theorem Fits.withArgument (hc : c.Fits) (argument : Argument) :
    (c.withArgument argument).value.Fits := by
  by_cases h : c.operator.arity = argument.arity
  · rw [Condition.withArgument, if_pos h]
    exact h.symm
  · rw [withArgument_of_arity_ne h]
    exact hc

/-! ## One edit, and all edits of a session -/

/-- **After a choice a row fits**, whatever it was before. -/
theorem Edit.Chooses.fits {e : Edit} (he : e.Chooses) : (c.edited e).Fits := by
  cases he with
  | field field => exact fits_withField field
  | operator operator => exact fits_withOperator operator

/-- **An edit keeps that a row fits.** -/
theorem Fits.edited (hc : c.Fits) (e : Edit) : (c.edited e).Fits := by
  cases e with
  | field field => exact fits_withField field
  | operator operator => exact fits_withOperator operator
  | value value => exact hc.withArgument (.single value)
  | range lower upper => exact hc.withArgument (.range lower upper)
  | relative key => exact hc.withArgument (.relative key)
  | id id => exact hc

theorem Fits.editedBy (hc : c.Fits) (edits : List Edit) : (c.editedBy edits).Fits := by
  induction edits generalizing c with
  | nil => exact hc
  | cons e rest ih => exact ih (hc.edited e)

theorem editedBy_append (c : Condition) (before after : List Edit) :
    c.editedBy (before ++ after) = (c.editedBy before).editedBy after :=
  List.foldl_append

/-- **The values of a row that is edited fit its operator.**  They do after any edits of an empty
row, so after every single one of them.  They do after any edits of any row, however it came about,
as soon as a field or an operator was chosen among them.  An operator that takes as many values as
there are leaves them, and all else but the operator, as they are; and setting values leaves the row
as it is, if its operator takes another number of them. -/
theorem fits_editedBy :
    (∀ (id : String) (edits : List Edit), ((blank id).editedBy edits).Fits) ∧
    (∀ (c : Condition) (before : List Edit) (e : Edit) (after : List Edit), e.Chooses →
      (c.editedBy (before ++ e :: after)).Fits) ∧
    (∀ (c : Condition) (operator : Operator), c.argument.arity = operator.arity →
      c.withOperator operator = { c with operator := operator }) ∧
    (∀ (c : Condition) (value : Literal), c.operator.arity ≠ .single →
      (c.withValue value).value = c) ∧
    (∀ (c : Condition) (lower upper : Option Literal), c.operator.arity ≠ .range →
      (c.withRange lower upper).value = c) ∧
    ∀ (c : Condition) (key : String), c.operator.arity ≠ .relative →
      (c.withRelative key).value = c := by
  refine ⟨fun id edits => (fits_blank id).editedBy edits, fun c before e after he => ?_,
    fun c operator h => withOperator_of_arity_eq h, fun c value h => withArgument_of_arity_ne h,
    fun c lower upper h => withArgument_of_arity_ne h, fun c key h => withArgument_of_arity_ne h⟩
  have hchosen : ((c.editedBy before).edited e).Fits := he.fits
  rw [editedBy_append]
  exact hchosen.editedBy after

/-- A row with one value for an operator that takes two.  Another value is refused, and so is the key
of a period; once an operator for one value is chosen, the value stays and fits, two values are
refused, and so the row fits after two more edits. -/
theorem fits_editedBy_misfit :
    ¬ Fits ⟨"c", "age", .known .between, .single (.text "30")⟩ ∧
    (withValue ⟨"c", "age", .known .between, .single (.text "30")⟩ (.text "31")).value =
      ⟨"c", "age", .known .between, .single (.text "30")⟩ ∧
    (withRelative ⟨"c", "age", .known .between, .single (.text "30")⟩ "today").value =
      ⟨"c", "age", .known .between, .single (.text "30")⟩ ∧
    withOperator ⟨"c", "age", .known .between, .single (.text "30")⟩ (.known .greaterThan) =
      ⟨"c", "age", .known .greaterThan, .single (.text "30")⟩ ∧
    (withRange ⟨"c", "age", .known .greaterThan, .single (.text "30")⟩ none none).value =
      ⟨"c", "age", .known .greaterThan, .single (.text "30")⟩ ∧
    editedBy ⟨"c", "age", .known .between, .single (.text "30")⟩
        [.relative "today", .operator (.known .greaterThan), .range none none, .id "d"] =
      ⟨"d", "age", .known .greaterThan, .single (.text "30")⟩ ∧
    Fits ⟨"d", "age", .known .greaterThan, .single (.text "30")⟩ := by
  obtain ⟨-, hchosen, hkept, hvalue, hrange, hrelative⟩ := fits_editedBy
  exact ⟨by decide, hvalue _ (.text "31") (by decide), hrelative _ "today" (by decide),
    hkept _ (.known .greaterThan) rfl, hrange _ none none (by decide), rfl,
    hchosen ⟨"c", "age", .known .between, .single (.text "30")⟩ [.relative "today"]
      (.operator (.known .greaterThan)) [.range none none, .id "d"] (.operator _)⟩

end Condition
end RecordFilter
