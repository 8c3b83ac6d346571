import RecordFilter.Calendar.Instant
import RecordFilter.Journal
import RecordFilter.Period

/-!
# The window of a period

The calendar periods go from the beginning of a day to the last millisecond of a day, on the clock
of the moment they are relative to.  The rolling ones begin some days before it and end with the
moment itself.

* `Period.days?` — the first and the last day of a calendar period.
* `Period.window?` — the window of a period.  A window that leaves the calendar is `none`;
  `OffCalendar` is the fault of a moment whose own local date the calendar does not have.
* `Period.windowOfKey?` — the window of the period that a key names.
-/

set_option autoImplicit false

namespace RecordFilter

/-! ## Windows and faults -/

/-- The fault of a local date that the calendar does not have. -/
inductive OffCalendar where
  | offCalendar
  deriving DecidableEq

/-- A window of time; both ends belong to it. -/
structure Window where
  start : Instant
  finish : Instant
  deriving DecidableEq

/-- The local date of a moment, or a fault if there is none. -/
def Moment.today (m : Moment) : Except OffCalendar Day :=
  match m.day? with
  | some day => .ok day
  | none => .error .offCalendar

namespace Period

/-! ## The days of a calendar period -/

/-- The week of a day, some weeks later; weeks begin on `weekStart`. -/
def weekOf? (day : Day) (weekStart : Weekday) (weeks : Int) : Option (Day × Day) := do
  let own ← day.plus? (-((day.sinceSunday - weekStart.sinceSunday) % 7))
  let first ← own.plus? (weeks * 7)
  let last ← first.plus? 6
  return (first, last)

/-- The month of a day, some months later.  It ends with the day before the next month begins. -/
def monthOf? (day : Day) (months : Int) : Option (Day × Day) := do
  let index := day.civil.year * 12 + ((day.civil.month : Int) - 1) + months
  let first ← Day.ofCivil? ⟨index / 12, (index % 12).toNat + 1, 1⟩
  let next ← Day.ofCivil? ⟨(index + 1) / 12, ((index + 1) % 12).toNat + 1, 1⟩
  let last ← next.plus? (-1)
  return (first, last)

/-- A whole year. -/
def yearOf? (year : Int) : Option (Day × Day) := do
  let first ← Day.ofCivil? ⟨year, 1, 1⟩
  let last ← Day.ofCivil? ⟨year, 12, 31⟩
  return (first, last)

/-- How many days a rolling period reaches back. -/
def rollingDays? : Period → Option Int
  | last7Days => some 7
  | last30Days => some 30
  | last90Days => some 90
  | last365Days => some 365
  | _ => none

/-- The first and the last day of a calendar period around `today`. -/
def days? (p : Period) (weekStart : Weekday) (today : Day) : Option (Day × Day) :=
  match p with
  | .today => some (today, today)
  | .yesterday => (today.plus? (-1)).map fun day => (day, day)
  | .tomorrow => (today.plus? 1).map fun day => (day, day)
  | thisWeek => weekOf? today weekStart 0
  | lastWeek => weekOf? today weekStart (-1)
  | nextWeek => weekOf? today weekStart 1
  | thisMonth => monthOf? today 0
  | lastMonth => monthOf? today (-1)
  | nextMonth => monthOf? today 1
  | thisYear => yearOf? today.civil.year
  | lastYear => yearOf? (today.civil.year - 1)
  | nextYear => yearOf? (today.civil.year + 1)
  | last7Days | last30Days | last90Days | last365Days => none

/-! ## The window of a period -/

/-- The window of whole local days from `first` to `last`. -/
def daysWindow? (first last : Day) (offset : Offset) : Option Window := do
  let start ← first.start? offset
  let finish ← last.finish? offset
  return ⟨start, finish⟩

/-- The window of a period when the local date of the moment is `today`. -/
def windowOn? (p : Period) (now : Moment) (weekStart : Weekday) (today : Day) : Option Window :=
  match p.rollingDays? with
  | some days => do
    let first ← today.plus? (-days)
    let start ← first.start? now.offset
    return ⟨start, now.instant⟩
  | none => do
    let (first, last) ← p.days? weekStart today
    daysWindow? first last now.offset

/-- The window of a period relative to a moment, with weeks that begin on `weekStart`. -/
def window? (p : Period) (now : Moment) (weekStart : Weekday) :
    Except OffCalendar (Option Window) := do
  let today ← now.today
  return p.windowOn? now weekStart today

/-- The window of the period that a key names.  A key that names none has no window, and a note
says so. -/
def windowOfKey? (key : String) (now : Moment) (weekStart : Weekday) :
    Except OffCalendar (Noted (Option Window)) := do
  match ofKey? key with
  | some p => return ⟨← p.window? now weekStart, []⟩
  | none => return .debug (unknownKeyText key) none

end Period
end RecordFilter
