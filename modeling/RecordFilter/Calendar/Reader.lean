import RecordFilter.Calendar.Instant
import RecordFilter.Number.Digits
import RecordFilter.Number.Power
import RecordFilter.Text.Space

/-!
# Reading days and instants

* `Moment.ofText?` — an instant with its offset in the format of RFC 3339, such as
  `2024-06-12T15:00:00.250+02:00`: fixed widths, a time zone, any number of digits after the second.
* `Day.ofText?` — a day such as `2024-6-1`.  White space may stand before each number, and a year
  has up to four digits, or any number of them after a sign.
* `Day.ofLocalTime?` — the day of a local time such as `2024-06-12T15:00` or
  `2024-06-12T15:00:00.250`.
* `Weekday.ofText?` — a day of the week by its name or the first three letters of it.
-/

set_option autoImplicit false

namespace RecordFilter
namespace Calendar

/-! ## Characters and numbers -/

/-- What follows a given character at the front of a text. -/
def after? (c : Char) : List Char → Option (List Char)
  | first :: rest => if first = c then some rest else none
  | [] => none

/-- A number of exactly `count` digits at the front of a text. -/
def fixed? (count : Nat) (text : List Char) : Option (Nat × List Char) :=
  match Digits.take (text.take count) with
  | (digits, []) =>
    if digits.length = count then some (Digits.number digits, text.drop count) else none
  | _ => none

/-- A number of one to `limit` digits at the front of a text. -/
def upTo? (limit : Nat) (text : List Char) : Option (Nat × List Char) :=
  match (Digits.take (text.take limit)).1 with
  | [] => none
  | digits => some (Digits.number digits, text.drop digits.length)

/-- A number of at least one digit at the front of a text. -/
def number? (text : List Char) : Option (Nat × List Char) :=
  match Digits.take text with
  | ([], _) => none
  | (digits, rest) => some (Digits.number digits, rest)

/-! ## Fractions, times of day and time zones -/

/-- The nanoseconds that the digits after a decimal point name; digits after the ninth are dropped.
-/
def nanosOf (digits : List Nat) : Nat :=
  Digits.number (digits.take 9) * tenTo (9 - digits.length)

/-- The fraction of a second at the front of a text, if it begins with a point. -/
def fraction? : List Char → Option (Nat × List Char)
  | '.' :: text =>
    match Digits.take text with
    | ([], _) => none
    | (digits, rest) => some (nanosOf digits, rest)
  | text => some (0, text)

/-- The seconds since midnight and the nanoseconds of a time of day.  The second 60 is a leap
second. -/
def timeOfDay? (hour minute second nanos : Nat) : Option (Nat × Nat) :=
  if 23 < hour ∨ 59 < minute ∨ 60 < second then none
  else if second = 60 then some (hour * 3600 + minute * 60 + 59, nanos + 1000000000)
  else some (hour * 3600 + minute * 60 + second, nanos)

/-- A time zone at the end of a text: `Z`, or a sign with hours and minutes.  The sign may be the
minus sign U+2212. -/
def zone? : List Char → Option Offset
  | [] => none
  | [c] => if c = 'Z' ∨ c = 'z' then some .zero else none
  | sign :: text => do
    let (hours, text) ← fixed? 2 text
    let text ← after? ':' text
    let (minutes, rest) ← fixed? 2 text
    let seconds : Int := hours * 3600 + minutes * 60
    if ¬ rest.isEmpty ∨ 23 < hours ∨ 59 < minutes then none
    else if sign = '+' then Offset.ofSeconds? seconds
    else if sign = '-' ∨ sign = '\u2212' then Offset.ofSeconds? (-seconds)
    else none

/-! ## Fixed widths -/

/-- A date in fixed widths at the front of a text. -/
def fixedDate? (text : List Char) : Option (Day × List Char) := do
  let (year, text) ← fixed? 4 text
  let text ← after? '-' text
  let (month, text) ← fixed? 2 text
  let text ← after? '-' text
  let (day, text) ← fixed? 2 text
  let date ← Day.ofCivil? ⟨year, month, day⟩
  return (date, text)

/-- A time of day in fixed widths at the front of a text: seconds since midnight and nanoseconds. -/
def fixedTime? (text : List Char) : Option ((Nat × Nat) × List Char) := do
  let (hour, text) ← fixed? 2 text
  let text ← after? ':' text
  let (minute, text) ← fixed? 2 text
  let text ← after? ':' text
  let (second, text) ← fixed? 2 text
  let (nanos, text) ← fraction? text
  let time ← timeOfDay? hour minute second nanos
  return (time, text)

/-- The letter, or the space, between a date and a time. -/
def betweenDateAndTime? : List Char → Option (List Char)
  | c :: text => if c = 'T' ∨ c = 't' ∨ c = ' ' then some text else none
  | [] => none

/-! ## Free widths -/

/-- A year at the front of a text: up to four digits, or any number of them after a sign. -/
def year? (text : List Char) : Option (Int × List Char) :=
  match text.dropWhile Text.isSpace with
  | '-' :: rest => (number? rest).map fun (n, after) => (-(n : Int), after)
  | '+' :: rest => (number? rest).map fun (n, after) => ((n : Int), after)
  | rest => (upTo? 4 rest).map fun (n, after) => ((n : Int), after)

/-- A number of one or two digits at the front of a text, after white space. -/
def field? (text : List Char) : Option (Nat × List Char) :=
  upTo? 2 (text.dropWhile Text.isSpace)

/-- A date with free widths at the front of a text. -/
def freeDate? (text : List Char) : Option (Day × List Char) := do
  let (year, text) ← year? text
  let text ← after? '-' text
  let (month, text) ← field? text
  let text ← after? '-' text
  let (day, text) ← field? text
  let date ← Day.ofCivil? ⟨year, month, day⟩
  return (date, text)

/-- Whether a text is a time of day with free widths: hours and minutes, and possibly seconds with
a fraction. -/
def isFreeTime (text : List Char) : Bool :=
  let seconds? : Option Bool := do
    let (hour, text) ← field? text
    let text ← after? ':' text
    let (minute, text) ← field? text
    if text.isEmpty then return (timeOfDay? hour minute 0 0).isSome
    let text ← after? ':' text
    let (second, text) ← field? text
    let (nanos, text) ← fraction? text
    return text.isEmpty && (timeOfDay? hour minute second nanos).isSome
  seconds?.getD false

end Calendar

/-! ## Whole texts -/

open Calendar

/-- Reads an instant with its offset from a whole text in the format of RFC 3339. -/
def Moment.ofText? (text : String) : Option Moment := do
  let (day, rest) ← fixedDate? text.toList
  let rest ← betweenDateAndTime? rest
  let ((seconds, nanos), rest) ← fixedTime? rest
  let offset ← zone? rest
  let instant ← Instant.ofSeconds? (day.number * 86400 + seconds - offset.seconds) nanos
  return ⟨instant, offset⟩

/-- Reads a day from a whole text. -/
def Day.ofText? (text : String) : Option Day :=
  match freeDate? text.toList with
  | some (day, []) => some day
  | _ => none

/-- Reads the day of a local time from a whole text. -/
def Day.ofLocalTime? (text : String) : Option Day :=
  match freeDate? text.toList with
  | some (day, 'T' :: time) => if isFreeTime time then some day else none
  | _ => none

/-- The day of the week with this name, or with a name that begins with these three letters, in any
case. -/
def Weekday.ofText? (text : String) : Option Weekday :=
  all.find? fun w => Text.sameIgnoringCase text w.name || Text.sameIgnoringCase text w.shortName

end RecordFilter
