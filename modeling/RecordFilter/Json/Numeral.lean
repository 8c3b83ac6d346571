import RecordFilter.Json.Value
import RecordFilter.Number.Digits

/-!
# Numerals

A number as it is written in JSON, and what it is read as.

* `Numeral` — sign, digits before and after the point, and exponent.
* `Numeral.take?` — a numeral at the front of a text.
* `Numeral.number?` — its value.  Without a point and an exponent it is an integer if a word can
  hold it.  Otherwise its leading digits, as many as an unsigned word can hold, become the nearest
  double, and that double is multiplied or divided by the double nearest to a power of ten; a
  result that is too large is refused, one that is too small is zero.
-/

set_option autoImplicit false

namespace RecordFilter

/-- A number as it is written.  `fraction` and `exponent` are absent when their mark is. -/
structure Numeral where
  negative : Bool
  whole : List Nat
  fraction : Option (List Nat)
  exponent : Option Int

namespace Numeral

/-! ## Reading a numeral -/

/-- The digits before the point: a single zero, or a run that does not begin with zero. -/
def takeWhole? (text : List Char) : Option (List Nat × List Char) :=
  match Digits.take text with
  | ([], _) => none
  | (0 :: _, _) => some ([0], text.drop 1)
  | (digits, rest) => some (digits, rest)

/-- A point and at least one digit, if there is a point. -/
def takeFraction? : List Char → Option (Option (List Nat) × List Char)
  | '.' :: text =>
    match Digits.take text with
    | ([], _) => none
    | (digits, rest) => some (some digits, rest)
  | text => some (none, text)

/-- The digits of an exponent, of which there is at least one. -/
def takeExponentDigits? (negative : Bool) (text : List Char) : Option (Option Int × List Char) :=
  match Digits.take text with
  | ([], _) => none
  | (digits, rest) =>
    let n : Int := Digits.number digits
    some (some (if negative then -n else n), rest)

/-- The mark of an exponent, its sign and its digits, if the mark is there. -/
def takeExponent? : List Char → Option (Option Int × List Char)
  | [] => some (none, [])
  | c :: text =>
    if c = 'e' ∨ c = 'E' then
      match text with
      | '+' :: digits => takeExponentDigits? false digits
      | '-' :: digits => takeExponentDigits? true digits
      | _ => takeExponentDigits? false text
    else some (none, c :: text)

/-- The numeral at the front of a text that has no sign. -/
def takeUnsigned? (negative : Bool) (text : List Char) : Option (Numeral × List Char) :=
  match takeWhole? text with
  | none => none
  | some (whole, afterWhole) =>
    match takeFraction? afterWhole with
    | none => none
    | some (fraction, afterFraction) =>
      match takeExponent? afterFraction with
      | none => none
      | some (exponent, rest) => some (⟨negative, whole, fraction, exponent⟩, rest)

/-- The numeral at the front of a text. -/
def take? : List Char → Option (Numeral × List Char)
  | '-' :: text => takeUnsigned? true text
  | text => takeUnsigned? false text

/-! ## The value of a numeral -/

/-- Appends digits to a number as long as an unsigned word of 64 bits holds the result, and returns
the digits that are left over. -/
def appendDigits (n : Nat) : List Nat → Nat × List Nat
  | [] => (n, [])
  | d :: rest =>
    if 10 * n + d ≤ 18446744073709551615 then appendDigits (10 * n + d) rest else (n, d :: rest)

/-- The double nearest to a power of ten. -/
def powerOfTen? (exponent : Nat) : Option FiniteDouble :=
  (Double.ofRatio false (tenTo exponent) 1).finite?

/-- A number times a power of ten; the factor and the result are each rounded. -/
def times? (x : FiniteDouble) (exponent : Nat) : Option FiniteDouble :=
  (powerOfTen? exponent).bind fun power => (Double.mul x power).finite?

/-- A number divided by a power of ten; the divisor and the result are each rounded. -/
def over? (x : FiniteDouble) (exponent : Nat) : Option FiniteDouble :=
  (powerOfTen? exponent).bind fun power => (Double.div x power).finite?

/-- The double that `digits * 10 ^ exponent` is read as.  `10 ^ 308` is the largest power of ten
that is finite; two divisions by it leave nothing of a word of 64 bits. -/
def scaled? (digits : Nat) (exponent : Int) : Option FiniteDouble :=
  (Double.ofRatio false digits 1).finite?.bind fun x =>
    if digits = 0 then some (.zero false)
    else if 308 < exponent then none
    else if 0 ≤ exponent then times? x exponent.toNat
    else if -308 ≤ exponent then over? x (-exponent).toNat
    else if -616 ≤ exponent then (over? x 308).bind fun y => over? y (-exponent - 308).toNat
    else some (.zero false)

/-- The double that a numeral with this sign and these digits is read as. -/
def double? (negative : Bool) (digits : Nat) (exponent : Int) : Option Json.Number :=
  (scaled? digits exponent).map fun x => .double (if negative then x.neg else x)

/-- The integer that a numeral of plain digits is read as, or the double for minus zero and for what
a word cannot hold. -/
def plain? (negative : Bool) (digits : Nat) : Option Json.Number :=
  if negative ∧ digits = 0 then double? negative digits 0
  else
    match Json.Number.ofInt? (if negative then -(digits : Int) else digits) with
    | some n => some n
    | none => double? negative digits 0

/-- The value of a numeral; `none` if it is too large for a double. -/
def number? (numeral : Numeral) : Option Json.Number :=
  let (n, surplus) := appendDigits 0 numeral.whole
  match numeral.fraction, numeral.exponent, surplus with
  | none, none, [] => plain? numeral.negative n
  | fraction, exponent, _ =>
    let digits := fraction.getD []
    let (m, unused) := appendDigits n digits
    let kept : Int := digits.length - unused.length
    double? numeral.negative m (exponent.getD 0 + surplus.length - kept)

end Numeral
end RecordFilter
