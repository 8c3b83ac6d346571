/-!
# Calendar days

Days are numbered from 1 January 1970, which is day 0, in the Gregorian calendar extended to all
years.  The calendar runs from 1 January of the year -262143 to 31 December of the year 262142.

* `Day` — a day of the calendar; `Day.ofNumber?` and `Day.ofCivil?` answer `none` outside it.
* `Civil` — year, month and day of the month; `Day.civil` finds them.
* `Weekday` — the days of the week and their English names; `Day.sinceSunday` finds the one of a
  day.
-/

set_option autoImplicit false

namespace RecordFilter

/-! ## Dates -/

/-- Year, month from 1 to 12, and day of the month from 1. -/
structure Civil where
  year : Int
  month : Nat
  day : Nat
  deriving DecidableEq

namespace Civil

/-- Whether a year has 366 days. -/
def isLeap (year : Int) : Bool :=
  year % 4 = 0 && (year % 100 ≠ 0 || year % 400 = 0)

/-- The number of the first day of a year. -/
def yearStart (year : Int) : Int :=
  365 * (year - 1970) + (year - 1) / 4 - (year - 1) / 100 + (year - 1) / 400 - 477

/-- The lengths of the months of a year. -/
def monthLengths (leap : Bool) : List Nat :=
  [31, if leap then 29 else 28, 31, 30, 31, 30, 31, 31, 30, 31, 30, 31]

/-- The number of days of a year before its month `month`. -/
def daysBeforeMonth (leap : Bool) (month : Nat) : Nat :=
  ((monthLengths leap).take (month - 1)).foldl (· + ·) 0

/-- The year in which a day lies.  The mean length of a year leads to the year itself or to a
neighbour of it. -/
def yearOf (number : Int) : Int :=
  let guess := number * 400 / 146097 + 1970
  if number < yearStart guess then guess - 1
  else if yearStart (guess + 1) ≤ number then guess + 1
  else guess

/-- The month and the day of the month that follow `count` days of months with the given lengths,
counting the months from `month`. -/
def monthAndDay (month count : Nat) : List Nat → Nat × Nat
  | [] => (month, count + 1)
  | length :: rest =>
    if count < length then (month, count + 1) else monthAndDay (month + 1) (count - length) rest

/-- The date of a day. -/
def ofNumber (number : Int) : Civil :=
  let year := yearOf number
  let (month, day) := monthAndDay 1 (number - yearStart year).toNat (monthLengths (isLeap year))
  ⟨year, month, day⟩

/-- The number of the day with this date. -/
def number (c : Civil) : Int :=
  yearStart c.year + daysBeforeMonth (isLeap c.year) c.month + c.day - 1

/-- Whether the month exists and has this day. -/
def IsDate (c : Civil) : Prop :=
  1 ≤ c.month ∧ c.month ≤ 12 ∧ 1 ≤ c.day ∧
    c.day ≤ (monthLengths (isLeap c.year)).getD (c.month - 1) 0

instance (c : Civil) : Decidable c.IsDate :=
  inferInstanceAs (Decidable (1 ≤ c.month ∧ c.month ≤ 12 ∧ 1 ≤ c.day ∧
    c.day ≤ (monthLengths (isLeap c.year)).getD (c.month - 1) 0))

end Civil

/-! ## Days of the calendar -/

/-- Whether the calendar has a day of this number: it begins with the year -262143 and ends with the
year 262142. -/
def InCalendar (number : Int) : Prop := -96465292 ≤ number ∧ number ≤ 95026236

instance (number : Int) : Decidable (InCalendar number) :=
  inferInstanceAs (Decidable (-96465292 ≤ number ∧ number ≤ 95026236))

/-- A day of the calendar. -/
structure Day where
  number : Int
  inCalendar : InCalendar number
  deriving DecidableEq

/-! ## Days of the week -/

/-- The days of the week. -/
inductive Weekday where
  | sunday
  | monday
  | tuesday
  | wednesday
  | thursday
  | friday
  | saturday
  deriving DecidableEq

namespace Weekday

/-- The days of the week, beginning with Sunday. -/
def all : List Weekday := [sunday, monday, tuesday, wednesday, thursday, friday, saturday]

/-- The English name of a day of the week. -/
def name : Weekday → String
  | sunday => "Sunday"
  | monday => "Monday"
  | tuesday => "Tuesday"
  | wednesday => "Wednesday"
  | thursday => "Thursday"
  | friday => "Friday"
  | saturday => "Saturday"

/-- The first three letters of the name. -/
def shortName (w : Weekday) : String := String.ofList (w.name.toList.take 3)

/-- The number of days since Sunday. -/
def sinceSunday : Weekday → Int
  | sunday => 0
  | monday => 1
  | tuesday => 2
  | wednesday => 3
  | thursday => 4
  | friday => 5
  | saturday => 6

end Weekday

/-! ## Calculating with days -/

namespace Day

/-- The day of this number, if the calendar has it. -/
def ofNumber? (number : Int) : Option Day :=
  if h : InCalendar number then some ⟨number, h⟩ else none

/-- The day with this date, if the date exists and the calendar has it. -/
def ofCivil? (c : Civil) : Option Day :=
  if c.IsDate then ofNumber? c.number else none

/-- The date of a day. -/
def civil (d : Day) : Civil := .ofNumber d.number

/-- The day some days later, or earlier when `days` is negative. -/
def plus? (d : Day) (days : Int) : Option Day := ofNumber? (d.number + days)

/-- The day of the week, as the number of days since Sunday.  Day 0 was a Thursday. -/
def sinceSunday (d : Day) : Int := (d.number + 4) % 7

end Day
end RecordFilter
