import RecordFilter.Json.Record
import RecordFilter.Text.Space

/-!
# Relative periods

A period such as *last week* names a window of time relative to a moment.

* `Period` — the sixteen periods, with their keys and labels.
* `Period.ofKey?` — the period that a key names.
-/

set_option autoImplicit false

namespace RecordFilter

/-- A period relative to a moment. -/
inductive Period where
  | today
  | yesterday
  | tomorrow
  | thisWeek
  | lastWeek
  | nextWeek
  | thisMonth
  | lastMonth
  | nextMonth
  | thisYear
  | lastYear
  | nextYear
  | last7Days
  | last30Days
  | last90Days
  | last365Days
  deriving DecidableEq

namespace Period

/-- All periods. -/
def all : List Period :=
  [today, yesterday, tomorrow, thisWeek, lastWeek, nextWeek, thisMonth, lastMonth, nextMonth,
    thisYear, lastYear, nextYear, last7Days, last30Days, last90Days, last365Days]

/-- The key under which a period is stored. -/
def key : Period → String
  | today => "today"
  | yesterday => "yesterday"
  | tomorrow => "tomorrow"
  | thisWeek => "this_week"
  | lastWeek => "last_week"
  | nextWeek => "next_week"
  | thisMonth => "this_month"
  | lastMonth => "last_month"
  | nextMonth => "next_month"
  | thisYear => "this_year"
  | lastYear => "last_year"
  | nextYear => "next_year"
  | last7Days => "last_7_days"
  | last30Days => "last_30_days"
  | last90Days => "last_90_days"
  | last365Days => "last_365_days"

/-- How a period is named to a reader. -/
def label : Period → String
  | today => "today"
  | yesterday => "yesterday"
  | tomorrow => "tomorrow"
  | thisWeek => "this week"
  | lastWeek => "last week"
  | nextWeek => "next week"
  | thisMonth => "this month"
  | lastMonth => "last month"
  | nextMonth => "next month"
  | thisYear => "this year"
  | lastYear => "last year"
  | nextYear => "next year"
  | last7Days => "last 7 days"
  | last30Days => "last 30 days"
  | last90Days => "last 90 days"
  | last365Days => "last 365 days"

/-- The period with exactly this key. -/
def ofExactKey? (key : String) : Option Period := all.find? fun p => p.key == key

/-- The period that a key names, white space around it ignored. -/
def ofKey? (key : String) : Option Period := ofExactKey? (Text.trim key)

/-- What is said of a key that names no period. -/
def unknownKeyText (key : String) : String :=
  "Unknown relative period '" ++ Text.trim key ++ "'"

/-- Reads a stored period. -/
def ofJson? (j : Json) : Option Period := j.choice?.bind ofExactKey?

end Period
end RecordFilter
