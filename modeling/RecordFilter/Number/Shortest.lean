import RecordFilter.Number.Digits
import RecordFilter.Number.Double

/-!
# The shortest decimal text of a number

A number is written with the fewest significant digits that read back as the same number; of
several texts of that length the one nearest to the number is taken, and of two equally near ones
the one whose last digit is even.

* `Shortest.decimalOf` — the digits and their power of ten, found by trying one digit, two digits
  and so on, in exact arithmetic.
* `FiniteDouble.text` — the layout: positional with at least one decimal while the first digit
  stands between `10 ^ -5` and `10 ^ 15`, scientific otherwise.
-/

set_option autoImplicit false

namespace RecordFilter
namespace Shortest

/-- The decimal number `digits * 10 ^ exponent`. -/
structure Decimal where
  digits : Nat
  exponent : Int
  deriving DecidableEq

/-- Looks for the first power of ten, from `10 ^ -place` downwards, that is at most `num / den`. -/
def placeBelowOne (num den : Nat) : Nat → Nat → Int
  | 0, place => -(place : Int)
  | fuel + 1, place =>
    if den ≤ num * tenTo place then -(place : Int) else placeBelowOne num den fuel (place + 1)

/-- The power of ten at which the first digit of `num / den` stands.  No double is below
`10 ^ -324`, which bounds the search. -/
def leadingPlace (num den : Nat) : Int :=
  if den ≤ num then ((Digits.decimal (num / den)).length : Int) - 1
  else placeBelowOne num den 324 1

/-- Whether a decimal lies among the reals nearest to the double of this rank.  The ends of that
interval, halfway to the neighbouring ranks, belong to an even rank. -/
def readsBack (rank : Nat) (d : Decimal) : Bool :=
  let scale := tenTo (-d.exponent).toNat
  let value := d.digits * tenTo d.exponent.toNat * (2 * Double.unitsPerOne)
  let lower := (Double.units (rank - 1) + Double.units rank) * scale
  let upper := (Double.units rank + Double.units (rank + 1)) * scale
  if rank % 2 = 0 then lower ≤ value && value ≤ upper else lower < value && value < upper

/-- The multiple of `10 ^ exponent` that reads back as the double of this rank, if one does: of the
two multiples around it the nearer, or the even one when they are equally near. -/
def onGrid? (rank : Nat) (exponent : Int) : Option Decimal :=
  let num := Double.units rank * tenTo (-exponent).toNat
  let den := Double.unitsPerOne * tenTo exponent.toNat
  let below : Decimal := ⟨num / den, exponent⟩
  let above : Decimal := ⟨num / den + 1, exponent⟩
  let nearest := if roundHalfEven num den = num / den then below else above
  if readsBack rank nearest then some nearest
  else if readsBack rank below then some below
  else if readsBack rank above then some above
  else none

/-- Moves trailing zeros of the digits into the exponent. -/
def withoutTrailingZeros (d : Decimal) : Decimal :=
  if 0 < d.digits ∧ d.digits % 10 = 0 then withoutTrailingZeros ⟨d.digits / 10, d.exponent + 1⟩
  else d
termination_by d.digits
decreasing_by omega

/-- The shortest decimal that reads back as the positive double of this rank.  Seventeen digits
always suffice. -/
def decimalOf (rank : Nat) : Decimal :=
  let place := leadingPlace (Double.units rank) Double.unitsPerOne
  let found := (List.range 17).findSome? fun (more : Nat) => onGrid? rank (place - more)
  withoutTrailingZeros (found.getD ⟨0, 0⟩)

/-- The text of a decimal: positional with at least one decimal while the first digit stands between
`10 ^ -5` and `10 ^ 15`, scientific otherwise. -/
def layout (d : Decimal) : List Char :=
  let digits := Digits.decimal d.digits
  let place : Int := d.exponent + digits.length - 1
  if place < -5 ∨ 15 < place then
    let fraction := digits.drop 1
    digits.take 1 ++ (if fraction.isEmpty then [] else '.' :: fraction) ++
      'e' :: (if place < 0 then '-' else '+') :: Digits.decimal place.natAbs
  else if place < 0 then
    '0' :: '.' :: List.replicate (place.natAbs - 1) '0' ++ digits
  else
    let count := place.toNat + 1
    if digits.length ≤ count then
      digits ++ List.replicate (count - digits.length) '0' ++ ['.', '0']
    else digits.take count ++ '.' :: digits.drop count

end Shortest

/-- The text of a number: the fewest digits that read back. -/
def FiniteDouble.text (x : FiniteDouble) : List Char :=
  (if x.negative then ['-'] else []) ++
    (if x.rank = 0 then ['0', '.', '0'] else Shortest.layout (Shortest.decimalOf x.rank))

end RecordFilter
