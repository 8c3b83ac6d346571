/-!
# Powers of two and ten

* `twoTo` — powers of two, in which binary64 numbers are spaced.
* `tenTo` — powers of ten, in which decimal numbers are written.
-/

set_option autoImplicit false

namespace RecordFilter

/-- A power of two. -/
def twoTo (exponent : Nat) : Nat := Nat.pow 2 exponent

/-- A power of ten. -/
def tenTo (exponent : Nat) : Nat := Nat.pow 10 exponent

end RecordFilter
