/-!
# Decimal digits

* `Digits.value?` — the value of one ASCII digit.
* `Digits.take` — splits a text into its leading run of digits and the rest.
* `Digits.number` — the number that a run of digits names.
* `Digits.decimal` — the digits of a number, without leading zeros.
-/

set_option autoImplicit false

namespace RecordFilter
namespace Digits

/-- The value of an ASCII digit. -/
def value? (c : Char) : Option Nat :=
  if '0' ≤ c ∧ c ≤ '9' then some (c.toNat - 48) else none

/-- The leading digits of a text, most significant first, and what follows them. -/
def take : List Char → List Nat × List Char
  | [] => ([], [])
  | c :: rest =>
    match value? c with
    | none => ([], c :: rest)
    | some d => (d :: (take rest).1, (take rest).2)

/-- The number that a run of digits names, most significant first. -/
def number (digits : List Nat) : Nat :=
  digits.foldl (fun n d => 10 * n + d) 0

/-- The ASCII digit of a value below ten. -/
def char (d : Nat) : Char := Char.ofNat (48 + d)

/-- The digits of a number in decimal, most significant first; zero is one digit. -/
def decimal (n : Nat) : List Char :=
  if n < 10 then [char n] else decimal (n / 10) ++ [char (n % 10)]
termination_by n
decreasing_by omega

/-- A number in decimal, with zeros in front up to at least `width` digits. -/
def padded (width n : Nat) : List Char :=
  List.replicate (width - (decimal n).length) '0' ++ decimal n

/-- An integer in decimal; a negative one has a minus sign. -/
def signed (n : Int) : List Char :=
  if n < 0 then '-' :: decimal n.natAbs else decimal n.natAbs

end Digits
end RecordFilter
