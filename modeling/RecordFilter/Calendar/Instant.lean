import RecordFilter.Calendar.Day

/-!
# Instants, and the days around them

An instant is a point of universal time; a clock that is ahead of universal time by an offset shows
its local date.

* `Instant` — seconds since 1970 and nanoseconds within the second.  A leap second counts as the
  second nanoseconds `10 ^ 9` to `2 * 10 ^ 9` of the second before it.
* `Offset` — how far a local clock is ahead of universal time, less than a day either way.
* `Moment` — an instant together with the offset of the clock it is read on.
* `Moment.day?` — the local date; there is none where the offset leads out of the calendar.
* `Day.start?` and `Day.finish?` — the first and the last millisecond of a local day.
-/

set_option autoImplicit false

namespace RecordFilter

/-- An instant of universal time whose date is in the calendar. -/
structure Instant where
  seconds : Int
  nanos : Nat
  nanos_lt : nanos < 2000000000
  inCalendar : InCalendar (seconds / 86400)
  deriving DecidableEq

/-- How many seconds a local clock is ahead of universal time. -/
structure Offset where
  seconds : Int
  bounded : -86400 < seconds ∧ seconds < 86400
  deriving DecidableEq

/-- An instant read on a clock with an offset. -/
structure Moment where
  instant : Instant
  offset : Offset
  deriving DecidableEq

namespace Instant

/-- The instant with these seconds and nanoseconds, if its date is in the calendar. -/
def ofSeconds? (seconds : Int) (nanos : Nat) : Option Instant :=
  if h : nanos < 2000000000 ∧ InCalendar (seconds / 86400) then some ⟨seconds, nanos, h.1, h.2⟩
  else none

/-- The instant this many milliseconds after the beginning of 1970. -/
def ofMillis? (millis : Int) : Option Instant :=
  ofSeconds? (millis / 1000) ((millis % 1000).toNat * 1000000)

/-- The order of time. -/
def compare (a b : Instant) : Ordering :=
  (Ord.compare a.seconds b.seconds).then (Ord.compare a.nanos b.nanos)

end Instant

namespace Offset

/-- An offset of less than a day. -/
def ofSeconds? (seconds : Int) : Option Offset :=
  if h : -86400 < seconds ∧ seconds < 86400 then some ⟨seconds, h⟩ else none

/-- The offset of universal time itself. -/
def zero : Offset := ⟨0, by decide⟩

end Offset

namespace Moment

/-- The number of seconds that the local clock shows. -/
def localSeconds (m : Moment) : Int := m.instant.seconds + m.offset.seconds

/-- The local date, if it is in the calendar. -/
def day? (m : Moment) : Option Day := Day.ofNumber? (m.localSeconds / 86400)

end Moment

namespace Day

/-- The instant at which a local day begins. -/
def start? (d : Day) (offset : Offset) : Option Instant :=
  Instant.ofSeconds? (d.number * 86400 - offset.seconds) 0

/-- The last whole millisecond of a local day. -/
def finish? (d : Day) (offset : Offset) : Option Instant :=
  Instant.ofSeconds? (d.number * 86400 + 86399 - offset.seconds) 999000000

end Day
end RecordFilter
