import RecordFilter.Journal
import RecordFilter.Path
import RecordFilter.Period.Window
import RecordFilter.Query.Pattern
import RecordFilter.Settings

/-!
# The query of a condition

* `Literal.operand?` — the operand that a value of a field stands for, by the kind of the field.
* `Literal.day?` — the day that a value is read as, on the clock of the moment of compiling.
* `Verb.query?` — the query of a verb with its values; `none` if the values are of no use.
* `Condition.query` — the query of a row.  A row without a field or an operator, with an operator
  that is not known, or with values that are of no use constrains nothing; the last two leave a
  note.

The only fault is a local date that the calendar does not have.
-/

set_option autoImplicit false

namespace RecordFilter

/-! ## What values stand for -/

/-- The operand that a value of a field stands for.  A field that the catalog lists as a number or a
boolean takes only what reads as one. -/
def Literal.operand? (catalog : Option Catalog) (field : String) (value : Literal) :
    Option Operand :=
  let kind : Option FieldKind := catalog.map fun catalog => (catalog.kindOf field).basis
  match kind with
  | some .number => value.number?.map fun x => .number (.finite x)
  | some .boolean => value.bool?.map Operand.bool
  | _ => some (.ofLiteral value)

/-- The operands of all items of a value, if each item stands for one and there is an item. -/
def Literal.operands? (catalog : Option Catalog) (field : String) (value : Literal) :
    Option (List Operand) :=
  match value.items.mapM (Literal.operand? catalog field) with
  | some [] => none
  | operands => operands

/-- The day that a text is read as on a clock with this offset: the local date of an instant, a
day, or the day of a local time. -/
def Day.ofAnyText? (offset : Offset) (text : String) : Except OffCalendar (Option Day) :=
  match Moment.ofText? text with
  | some m => (Moment.today ⟨m.instant, offset⟩).map some
  | none =>
    match Day.ofText? text with
    | some day => .ok (some day)
    | none => .ok (Day.ofLocalTime? text)

/-- The day that a value is read as on a clock with this offset; a number counts the milliseconds
since 1970. -/
def Literal.day? (offset : Offset) : Literal → Except OffCalendar (Option Day)
  | .number n =>
    match n.signedWord?.bind Instant.ofMillis? with
    | some t => (Moment.today ⟨t, offset⟩).map some
    | none => .ok none
  | .text s => Day.ofAnyText? offset (Text.trim s)
  | .bool _ | .list _ => .ok none

/-- The first and the last millisecond of the day that a value is read as. -/
def Literal.dayWindow? (offset : Offset) (value : Literal) : Except OffCalendar (Option Window) :=
  (value.day? offset).map fun day? => day?.bind fun day => Period.daysWindow? day day offset

/-! ## Queries for kinds of values -/

namespace Query

/-- A test of a field for a text. -/
def ofText? (path : String) (value : Option Literal) (test : String → Test) : Option Query :=
  (value.bind Literal.text?).map fun text => .field path (test text)

/-- A test of a field for a number. -/
def ofNumber? (path : String) (value : Option Literal) (test : Operand → Test) : Option Query :=
  (value.bind Literal.number?).map fun x => .field path (test (.number (.finite x)))

/-- A query for two numbers. -/
def ofNumbers? (ends : Option (Literal × Literal)) (query : Operand → Operand → Query) :
    Option Query := do
  let (lower, upper) ← ends
  let low ← lower.number?
  let high ← upper.number?
  return query (.number (.finite low)) (.number (.finite high))

/-- The query for what lies between two operands. -/
def inside (path : String) (lower upper : Operand) : Query := .field path (.between lower upper)

/-- The query for what lies below one operand or above another one. -/
def outside (path : String) (lower upper : Operand) : Query :=
  .any [.field path (.below lower), .field path (.above upper)]

/-- The query for what lies in a window of time. -/
def inWindow (path : String) (window : Window) : Query :=
  inside path (.date window.start) (.date window.finish)

/-- A query for the day that a value is read as, given its first and its last millisecond. -/
def ofDay? (offset : Offset) (value : Option Literal) (query : Operand → Operand → Query) :
    Except OffCalendar (Option Query) :=
  match value with
  | none => .ok none
  | some value =>
    (value.dayWindow? offset).map fun window? =>
      window?.map fun window => query (.date window.start) (.date window.finish)

/-- The query for the time from one day to another one. -/
def ofDays? (path : String) (offset : Offset) (ends : Option (Literal × Literal)) :
    Except OffCalendar (Option Query) := do
  match ends with
  | none => return none
  | some (lower, upper) =>
    match ← lower.dayWindow? offset with
    | none => return none
    | some first =>
      return (← upper.dayWindow? offset).map fun last => inWindow path ⟨first.start, last.finish⟩

/-- The query for the window of a period. -/
def ofPeriod? (path : String) (settings : Settings) (period : Period) :
    Except OffCalendar (Option Query) :=
  (period.window? settings.now settings.options.weekStart).map fun window? =>
    window?.map (inWindow path)

/-- The query for the window of the period that a key names. -/
def ofPeriodKey? (path : String) (settings : Settings) (key : Option String) :
    Except OffCalendar (Noted (Option Query)) :=
  match key with
  | none => .ok ⟨none, []⟩
  | some key =>
    (Period.windowOfKey? key settings.now settings.options.weekStart).map fun found =>
      found.map fun window? => window?.map (inWindow path)

/-- Absent, null, the empty text or the empty array. -/
def emptyAt (path : String) : Query :=
  .any [.field path (.isPresent false), .field path (.equals .null),
    .field path (.equals (.text "")), .field path (.equals (.list []))]

/-- Present, and neither null nor the empty text nor the empty array. -/
def filledAt (path : String) : Query :=
  .all [.field path (.isPresent true), .field path (.differs .null),
    .field path (.differs (.text "")), .field path (.differs (.list []))]

/-- A query that was found without a note. -/
def quietly (query : Option Query) : Except OffCalendar (Noted (Option Query)) := .ok ⟨query, []⟩

/-- A query that is found without a note, or a fault. -/
def orFault (query : Except OffCalendar (Option Query)) :
    Except OffCalendar (Noted (Option Query)) :=
  query.map fun q => ⟨q, []⟩

end Query

/-! ## Verbs -/

open Query

/-- The query of a verb for a field at a path. -/
def Verb.query? (settings : Settings) (field path : String) (argument : Argument) :
    Verb → Except OffCalendar (Noted (Option Query)) :=
  let value := argument.single?.filter fun value => !value.isBlank
  let offset := settings.now.offset
  fun
  | .contains => quietly (ofText? path value fun s => .fits (.contains s))
  | .notContains => quietly (ofText? path value fun s => .failsToFit (.contains s))
  | .startsWith => quietly (ofText? path value fun s => .fits (.startsWith s))
  | .endsWith => quietly (ofText? path value fun s => .fits (.endsWith s))
  | .equals =>
    quietly ((value.bind (Literal.operand? settings.catalog field)).map fun x =>
      .field path (.equals x))
  | .notEquals =>
    quietly ((value.bind (Literal.operand? settings.catalog field)).map fun x =>
      .field path (.differs x))
  | .isIn =>
    quietly ((value.bind (Literal.operands? settings.catalog field)).map fun xs =>
      .field path (.oneOf xs))
  | .isNotIn =>
    quietly ((value.bind (Literal.operands? settings.catalog field)).map fun xs =>
      .field path (.noneOf xs))
  | .isEmpty => quietly (some (emptyAt path))
  | .isNotEmpty => quietly (some (filledAt path))
  | .greaterThan => quietly (ofNumber? path value .above)
  | .greaterThanOrEqual => quietly (ofNumber? path value .atLeast)
  | .lessThan => quietly (ofNumber? path value .below)
  | .lessThanOrEqual => quietly (ofNumber? path value .atMost)
  | .between => quietly (ofNumbers? argument.ends? (inside path))
  | .notBetween => quietly (ofNumbers? argument.ends? (outside path))
  | .dateIs => orFault (ofDay? offset value (inside path))
  | .dateIsNot => orFault (ofDay? offset value (outside path))
  | .dateBefore => orFault (ofDay? offset value fun start _ => .field path (.below start))
  | .dateAfter => orFault (ofDay? offset value fun _ finish => .field path (.above finish))
  | .dateBetween => orFault (ofDays? path offset argument.ends?)
  | .dateThisWeek => orFault (ofPeriod? path settings .thisWeek)
  | .dateThisMonth => orFault (ofPeriod? path settings .thisMonth)
  | .dateThisYear => orFault (ofPeriod? path settings .thisYear)
  | .dateIsRelative => ofPeriodKey? path settings argument.key?
  | .isTrue => quietly (some (.field path (.equals (.bool true))))
  | .isFalse => quietly (some (.field path (.equals (.bool false))))

/-! ## Rows -/

namespace Condition

/-- What is said of a row that constrains nothing, and why. -/
def skippedText (c : Condition) (why : String) : String :=
  "Skipping condition '" ++ c.id ++ "' on '" ++ Text.trim c.field ++ "': " ++ why ++ " '" ++
    c.operator.key ++ "'"

/-- The query of a row whose field lies below `base`. -/
def query (settings : Settings) (base : String) (c : Condition) :
    Except OffCalendar (Noted Query) :=
  if c.isBlank || c.operator.isBlank then .ok ⟨.everything, []⟩
  else
    match c.operator with
    | .unknown _ => .ok (.debug (c.skippedText "unknown operator") .everything)
    | .known verb =>
      let field := Text.trim c.field
      (verb.query? settings field (Path.under base field) c.argument).map fun found =>
        match found.value with
        | some q => ⟨q, found.notes⟩
        | none =>
          ⟨.everything, found.notes ++ [⟨.debug, c.skippedText "no usable value for"⟩]⟩

end Condition
end RecordFilter
