import RecordFilter.Number.Power

/-!
# Binary64 numbers

Every number that is compared or rendered is a binary64 number.  Here they are data that can be
computed with exactly: no rounding is left to the machine.

* `FiniteDouble` — a sign and a *rank*.  The finite magnitudes are numbered `0, 1, 2, …` in
  increasing order, so two of them compare as their ranks do; the magnitude itself is `units rank`
  multiples of the smallest positive double, `2 ^ -1074`.
* `Double` — the finite ones, the two infinities and not-a-number.
* `Double.ofRatio` — the double nearest to a quotient, a half going to the even rank.
* `Double.compare?` — the order: both zeros are equal, and not-a-number compares with nothing.
-/

set_option autoImplicit false

namespace RecordFilter

/-! ## Rounding -/

/-- The quotient `num / den` rounded to the nearest natural number, a half going to the even one. -/
def roundHalfEven (num den : Nat) : Nat :=
  let whole := num / den
  let rest := num % den
  if 2 * rest < den then whole
  else if den < 2 * rest then whole + 1
  else whole + whole % 2

namespace Double

/-- The rank of infinity: every finite magnitude has a smaller one. -/
def rankLimit : Nat := 2047 * twoTo 52

/-- How many times `2 ^ -1074` a magnitude is.  The ranks below `2 ^ 52` are evenly spaced from
zero; each later block of `2 ^ 52` ranks spans one power of two. -/
def units (rank : Nat) : Nat :=
  if rank < twoTo 52 then rank
  else (twoTo 52 + rank % twoTo 52) * twoTo (rank / twoTo 52 - 1)

/-- The number of units in the number one. -/
def unitsPerOne : Nat := twoTo 1074

/-- The rank nearest to `num / den`, a half going to the even rank; at or above `rankLimit` the
quotient is too large for a finite double. -/
def nearestRank (num den : Nat) : Nat :=
  let scaled := num * unitsPerOne
  let whole := scaled / den
  if whole < twoTo 53 then roundHalfEven scaled den
  else
    let shift := Nat.log2 whole - 52
    shift * twoTo 52 + roundHalfEven scaled (den * twoTo shift)

end Double

/-! ## Numbers -/

/-- A finite binary64 number.  Zero has a sign too. -/
structure FiniteDouble where
  negative : Bool
  rank : Nat
  rank_lt : rank < Double.rankLimit
  deriving DecidableEq

/-- A binary64 number. -/
inductive Double where
  | finite (x : FiniteDouble)
  | infinite (negative : Bool)
  | notANumber
  deriving DecidableEq

namespace FiniteDouble

/-- The position on the number line: it orders the doubles as their values do, and both zeros
stand at zero. -/
def key (x : FiniteDouble) : Int :=
  if x.negative then -(x.rank : Int) else x.rank

/-- The magnitude in multiples of `2 ^ -1074`. -/
def magnitude (x : FiniteDouble) : Nat := Double.units x.rank

/-- The integer a double is equal to, when there is one. -/
def whole? (x : FiniteDouble) : Option Int :=
  if x.magnitude % Double.unitsPerOne = 0 then
    let n : Int := (x.magnitude / Double.unitsPerOne : Nat)
    some (if x.negative then -n else n)
  else none

/-- Positive or negative zero. -/
def zero (negative : Bool) : FiniteDouble :=
  ⟨negative, 0, by decide⟩

/-- The number with the opposite sign. -/
def neg (x : FiniteDouble) : FiniteDouble := ⟨!x.negative, x.rank, x.rank_lt⟩

end FiniteDouble

namespace Double

/-- The double nearest to `num / den`, with the given sign. -/
def ofRatio (negative : Bool) (num den : Nat) : Double :=
  if h : nearestRank num den < rankLimit then .finite ⟨negative, nearestRank num den, h⟩
  else .infinite negative

/-- The double nearest to an integer. -/
def ofInt (n : Int) : Double := ofRatio (decide (n < 0)) n.natAbs 1

/-- A finite double, or nothing for an infinity or not-a-number. -/
def finite? : Double → Option FiniteDouble
  | .finite x => some x
  | _ => none

/-- The position on the number line, the infinities at the two ends. -/
def key? : Double → Option Int
  | .finite x => some x.key
  | .infinite negative => some (if negative then -(rankLimit : Int) else rankLimit)
  | .notANumber => none

/-- How two doubles compare; not-a-number compares with nothing, itself included. -/
def compare? (a b : Double) : Option Ordering :=
  match a.key?, b.key? with
  | some x, some y => some (compare x y)
  | _, _ => none

/-- Numerical equality: the zeros are equal and not-a-number equals nothing. -/
def equals (a b : Double) : Bool := a.compare? b == some .eq

/-- The product, rounded once. -/
def mul (a b : FiniteDouble) : Double :=
  ofRatio (a.negative != b.negative) (a.magnitude * b.magnitude) (unitsPerOne * unitsPerOne)

/-- The quotient by a number other than zero, rounded once. -/
def div (a b : FiniteDouble) : Double :=
  ofRatio (a.negative != b.negative) a.magnitude b.magnitude

end Double
end RecordFilter
