import RecordFilter.Number.Digits
import RecordFilter.Number.Double

/-!
# Reading numbers from text

* `Double.ofDecimal` — the double nearest to a decimal number.
* `Double.ofText?` — reads a whole text: an optional sign, then digits with an optional decimal
  point (at least one digit on one side of it) and an optional exponent, or one of `inf`,
  `infinity` and `nan` in any case.
-/

set_option autoImplicit false

namespace RecordFilter
namespace Double

/-- The double nearest to `digits * 10 ^ exponent`.  A number of more than four hundred digits is
too large whatever its digits are, and one below `10 ^ -400` is nearest to zero, so no power of ten
beyond these is computed. -/
def ofDecimal (negative : Bool) (digits : Nat) (exponent : Int) : Double :=
  let place := exponent + (Digits.decimal digits).length
  if digits = 0 ∨ place < -400 then .finite (.zero negative)
  else if 400 < place then .infinite negative
  else ofRatio negative (digits * tenTo exponent.toNat) (tenTo (-exponent).toNat)

/-- Splits off an optional sign; `true` is minus. -/
def takeSign : List Char → Bool × List Char
  | '-' :: rest => (true, rest)
  | '+' :: rest => (false, rest)
  | rest => (false, rest)

/-- Reads the part of a number after its digits: nothing, or `e` and a signed run of digits. -/
def exponentPart? : List Char → Option Int
  | [] => some 0
  | c :: rest =>
    if c = 'e' ∨ c = 'E' then
      let (negative, afterSign) := takeSign rest
      match Digits.take afterSign with
      | (digits, []) =>
        if digits.isEmpty then none
        else
          let n : Int := Digits.number digits
          some (if negative then -n else n)
      | _ => none
    else none

/-- Reads a number without a sign, written with digits. -/
def unsigned? (negative : Bool) (text : List Char) : Option Double :=
  let (whole, afterWhole) := Digits.take text
  let (fraction, rest) :=
    match afterWhole with
    | '.' :: afterPoint => Digits.take afterPoint
    | _ => ([], afterWhole)
  if whole.isEmpty && fraction.isEmpty then none
  else (exponentPart? rest).map fun exponent =>
    ofDecimal negative (Digits.number (whole ++ fraction)) (exponent - fraction.length)

/-- Reads a number from a whole text. -/
def ofText? (text : String) : Option Double :=
  let (negative, rest) := takeSign text.toList
  match unsigned? negative rest with
  | some x => some x
  | none =>
    let word := String.ofList (rest.map Char.toLower)
    if word = "inf" ∨ word = "infinity" then some (.infinite negative)
    else if word = "nan" then some .notANumber
    else none

end Double
end RecordFilter
