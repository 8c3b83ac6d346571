import RecordFilter.Calendar.Instant
import RecordFilter.Number.Digits

/-!
# The text of an instant

* `Instant.text` — universal time in milliseconds, `2024-06-12T15:00:00.000Z`.
* `Moment.text` — local time in nanoseconds with its offset,
  `2024-06-12T15:00:00.000000000+00:00`.

A year outside 0 to 9999 has a sign.  A leap second is the second 60.
-/

set_option autoImplicit false

namespace RecordFilter

/-- A year in at least four digits. -/
def Civil.yearText (year : Int) : List Char :=
  if 0 ≤ year ∧ year ≤ 9999 then Digits.padded 4 year.toNat
  else (if year < 0 then '-' else '+') :: Digits.padded 4 year.natAbs

/-- A date as `YYYY-MM-DD`. -/
def Civil.text (c : Civil) : List Char :=
  Civil.yearText c.year ++ '-' :: Digits.padded 2 c.month ++ '-' :: Digits.padded 2 c.day

/-- A time of day as `HH:MM:SS`, for the seconds since midnight. -/
def clockText (seconds : Nat) (leap : Bool) : List Char :=
  Digits.padded 2 (seconds / 3600) ++ ':' :: Digits.padded 2 (seconds / 60 % 60) ++
    ':' :: Digits.padded 2 (seconds % 60 + if leap then 1 else 0)

/-- A date and a time of day, for the seconds that a clock shows. -/
def clockReading (seconds : Int) (leap : Bool) : List Char :=
  (Civil.ofNumber (seconds / 86400)).text ++ 'T' :: clockText (seconds % 86400).toNat leap

/-- An instant in universal time, cut to milliseconds. -/
def Instant.text (t : Instant) : String :=
  String.ofList (clockReading t.seconds (1000000000 ≤ t.nanos) ++
    '.' :: Digits.padded 3 (t.nanos % 1000000000 / 1000000) ++ ['Z'])

/-- An offset as hours and minutes, to the nearest minute. -/
def Offset.text (o : Offset) : List Char :=
  let minutes := (o.seconds.natAbs + 30) / 60
  (if o.seconds < 0 then '-' else '+') ::
    Digits.padded 2 (minutes / 60) ++ ':' :: Digits.padded 2 (minutes % 60)

/-- A moment in local time with its offset. -/
def Moment.text (m : Moment) : String :=
  String.ofList (clockReading m.localSeconds (1000000000 ≤ m.instant.nanos) ++
    '.' :: Digits.padded 9 (m.instant.nanos % 1000000000) ++ m.offset.text)

end RecordFilter
