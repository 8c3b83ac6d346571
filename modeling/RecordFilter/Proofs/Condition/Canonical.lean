import RecordFilter.Condition.Edit
import RecordFilter.Condition.Stored
import RecordFilter.Proofs.Text.Space

/-!
# Rows that the stored form can hold

The stored form of a row has no place for everything: the key of an operator is read again when the
row is loaded, and a known operator reads only the slots of its own values.  A row that survives
this is *canonical*.

* `Argument.IsCanonical` — the values that the stored form of a row with a given operator can hold.
* `Condition.IsCanonical` — that, and the operator is the one that its key names.
* `Condition.isCanonical_of_ofJson?` — what is loaded is canonical, whatever it is loaded from.
* `Condition.Edit`, `Condition.editedBy` — the edits of a row, one after the other.
* `Condition.IsCanonical.editedBy` — they lead from canonical rows to canonical rows.
-/

set_option autoImplicit false

namespace RecordFilter

/-! ## Canonical rows -/

/-- The values that the stored form of a row with this operator can hold. -/
inductive Argument.IsCanonical (operator : Operator) (argument : Argument) : Prop
  /-- There are as many values as the operator takes. -/
  | fits (h : argument.arity = operator.arity)
  /-- The one value that the operator takes is missing. -/
  | missing (hoperator : operator.arity = .single) (hargument : argument = .nothing)
  /-- The operator is not known, so that the slot which is filled is kept.  A range without its two
  ends fills none. -/
  | kept {key : String} (hoperator : operator = .unknown key)
      (hargument : argument ≠ .range none none)

/-- Whether the stored form can hold a row: its key names its operator, and its values have slots
that are read. -/
structure Condition.IsCanonical (c : Condition) : Prop where
  operator : Operator.ofKey c.operator.key = c.operator
  argument : c.argument.IsCanonical c.operator

/-! ## Keys of operators -/

namespace Operator

theorem ofKey_key_known (verb : Verb) : ofKey (known verb).key = known verb := by
  cases verb <;> decide +kernel

theorem ofKey_key_blank : ofKey blank.key = blank := by
  decide +kernel

/-- The operator that a key names is the one that its own key names. -/
theorem ofKey_key_ofKey (key : String) : ofKey (ofKey key).key = ofKey key := by
  cases hverb : Verb.ofKey? (Text.trim key) with
  | some verb =>
    have hkey : ofKey key = known verb := by rw [ofKey, hverb]
    rw [hkey]
    exact ofKey_key_known verb
  | none =>
    have hkey : ofKey key = unknown (Text.trim key) := by rw [ofKey, hverb]
    rw [hkey, Operator.key, ofKey, Text.trim_trim, hverb]

end Operator

/-! ## Values -/

namespace Argument

theorem arity_initial (arity : Arity) : (initial arity).arity = arity := by
  cases arity <;> rfl

theorem ofFilledSlots_ne (members : List (String × Json)) :
    ofFilledSlots members ≠ range none none := by
  rw [ofFilledSlots]
  cases keySlot? members with
  | some key => exact nofun
  | none =>
    cases Literal.ofSlot? members "valueFrom" with
    | some lower => exact nofun
    | none =>
      cases Literal.ofSlot? members "valueTo" with
      | some upper => exact nofun
      | none =>
        dsimp only
        rw [ofValueSlot]
        cases Literal.ofSlot? members "value" <;> exact nofun

theorem isCanonical_ofValueSlot {operator : Operator} (h : operator.arity = .single)
    (members : List (String × Json)) : (ofValueSlot members).IsCanonical operator := by
  rw [ofValueSlot]
  cases Literal.ofSlot? members "value" with
  | some value => exact .fits h.symm
  | none => exact .missing h rfl

/-- The values that an operator takes from the slots are ones that the slots can hold. -/
theorem isCanonical_ofSlots (members : List (String × Json)) (operator : Operator) :
    (ofSlots members operator).IsCanonical operator := by
  cases operator with
  | unknown key => exact .kept rfl (ofFilledSlots_ne members)
  | known verb =>
    rw [ofSlots]
    cases harity : verb.arity with
    | nothing => exact .fits harity.symm
    | single => exact @isCanonical_ofValueSlot (.known verb) harity members
    | range => exact .fits harity.symm
    | relative => exact .fits harity.symm

end Argument

/-! ## Loaded rows, blank rows and edits -/

namespace Condition

theorem isCanonical_blank (id : String) : (blank id).IsCanonical :=
  ⟨Operator.ofKey_key_blank, .fits rfl⟩

/-- **A row that is loaded is canonical**, whatever it is loaded from. -/
theorem isCanonical_of_ofJson? {j : Json} {c : Condition} (h : ofJson? j = some c) :
    c.IsCanonical := by
  simp only [ofJson?, Option.bind_eq_bind, Option.bind_eq_some_iff, Option.pure_def,
    Option.some.injEq] at h
  obtain ⟨members, -, id, -, field, -, key, -, rfl⟩ := h
  constructor
  case operator =>
    dsimp only
    rw [Operator.ofKey_key_ofKey]
  case argument => exact Argument.isCanonical_ofSlots members (.ofKey key)

theorem isCanonical_of_listOfJson? {j : Json} {conditions : List Condition}
    (h : listOfJson? j = some conditions) : ∀ c ∈ conditions, c.IsCanonical := by
  cases j with
  | array items =>
    rw [listOfJson?] at h
    induction items generalizing conditions with
    | nil =>
      obtain rfl := Option.some.inj h
      exact List.forall_mem_nil _
    | cons item items ih =>
      simp only [List.mapM_cons, Option.bind_eq_bind, Option.bind_eq_some_iff, Option.pure_def,
        Option.some.injEq] at h
      obtain ⟨c, hc, rest, hrest, rfl⟩ := h
      exact List.forall_mem_cons.2 ⟨isCanonical_of_ofJson? hc, ih hrest⟩
  | null | bool | number | string | object => exact nomatch h

/-- An edit of a row. -/
inductive Edit where
  | field (field : Field)
  | operator (operator : Operator)
  | value (value : Literal)
  | range (lower upper : Option Literal)
  | relative (key : String)
  | id (id : String)

/-- A row after an edit. -/
def edited (c : Condition) : Edit → Condition
  | .field field => c.withField field
  | .operator operator => c.withOperator operator
  | .value value => (c.withValue value).value
  | .range lower upper => (c.withRange lower upper).value
  | .relative key => (c.withRelative key).value
  | .id id => c.withId id

/-- A row after some edits, one after the other. -/
def editedBy (c : Condition) (edits : List Edit) : Condition := edits.foldl edited c

namespace IsCanonical

variable {c : Condition}

theorem withField (field : Field) : (c.withField field).IsCanonical :=
  ⟨Operator.ofKey_key_known _, .fits (Argument.arity_initial _)⟩

theorem withOperator {operator : Operator} (h : Operator.ofKey operator.key = operator) :
    (c.withOperator operator).IsCanonical := by
  refine ⟨h, .fits ?_⟩
  rw [Condition.withOperator]
  split
  case isTrue harity => exact harity
  case isFalse => exact Argument.arity_initial _

theorem withArgument (hc : c.IsCanonical) (argument : Argument) :
    (c.withArgument argument).value.IsCanonical := by
  rw [Condition.withArgument]
  split
  case isTrue harity => exact ⟨hc.operator, .fits harity.symm⟩
  case isFalse => exact hc

/-- An edit leads from a canonical row to a canonical row, if an operator that it chooses is one
that a key names. -/
theorem edited (hc : c.IsCanonical) {e : Edit}
    (he : ∀ operator, e = .operator operator → ∃ key, operator = .ofKey key) :
    (c.edited e).IsCanonical := by
  cases e with
  | field field => exact withField field
  | operator operator =>
    obtain ⟨key, rfl⟩ := he operator rfl
    exact withOperator (Operator.ofKey_key_ofKey key)
  | value value => exact hc.withArgument _
  | range lower upper => exact hc.withArgument _
  | relative key => exact hc.withArgument _
  | id id => exact ⟨hc.operator, hc.argument⟩

/-- **Edits lead from canonical rows to canonical rows.** -/
theorem editedBy (hc : c.IsCanonical) {edits : List Edit}
    (hedits : ∀ operator, .operator operator ∈ edits → ∃ key, operator = .ofKey key) :
    (c.editedBy edits).IsCanonical := by
  induction edits generalizing c with
  | nil => exact hc
  | cons e rest ih =>
    refine ih (hc.edited fun operator he => hedits operator ?_) fun operator hrest =>
      hedits operator (List.mem_cons_of_mem _ hrest)
    rw [he]
    exact List.mem_cons_self

end IsCanonical
end Condition
end RecordFilter
