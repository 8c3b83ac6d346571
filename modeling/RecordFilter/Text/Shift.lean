/-!
# Tables over characters

Case tables are made of *shifts*: evenly spaced characters that all move by the same amount.

* `Shift.apply?` — what one shift maps a character to.
* `Shift.map` — what a table maps a character to; a character that no shift covers stays.
* `inRanges` — membership in a list of inclusive ranges of code points.
-/

set_option autoImplicit false

namespace RecordFilter
namespace Text

/-- The code points `first, first + step, …, last`, each moved by `delta`. -/
structure Shift where
  first : Nat
  last : Nat
  step : Nat
  delta : Int

/-- The character a shift moves `c` to, if it covers it. -/
def Shift.apply? (s : Shift) (c : Char) : Option Char :=
  if s.first ≤ c.toNat ∧ c.toNat ≤ s.last ∧ (c.toNat - s.first) % s.step = 0 then
    some (Char.ofNat ((c.toNat : Int) + s.delta).toNat)
  else none

/-- The character a table of shifts moves `c` to. -/
def Shift.map (table : List Shift) (c : Char) : Char :=
  (table.findSome? fun s => s.apply? c).getD c

/-- Whether the code point of `c` lies in one of the inclusive ranges. -/
def inRanges (ranges : List (Nat × Nat)) (c : Char) : Bool :=
  ranges.any fun (first, last) => first ≤ c.toNat && c.toNat ≤ last

end Text
end RecordFilter
