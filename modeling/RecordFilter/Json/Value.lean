import RecordFilter.Number.Double

/-!
# JSON values

Records, filters as they are stored, and rendered queries are JSON values.

* `Json.Number` — an integer of 64 bits, signed or unsigned, or a finite double.
* `Json` — a value.  An object is the list of its members in the order in which they were written; a
  repeated name stays in the list until `Json.settled` leaves only the last of its members.
* `Json.member?` — the member of an object with a given name.
-/

set_option autoImplicit false

namespace RecordFilter

/-- The integers that a signed or an unsigned word of 64 bits holds. -/
def FitsWord (n : Int) : Prop := -9223372036854775808 ≤ n ∧ n ≤ 18446744073709551615

instance (n : Int) : Decidable (FitsWord n) :=
  inferInstanceAs (Decidable (-9223372036854775808 ≤ n ∧ n ≤ 18446744073709551615))

/-- A JSON number: written without a point and an exponent it is an integer, if a word can hold it.
-/
inductive Json.Number where
  | integer (n : Int) (fits : FitsWord n)
  | double (x : FiniteDouble)
  deriving DecidableEq

/-- A JSON value. -/
inductive Json where
  | null
  | bool (b : Bool)
  | number (n : Json.Number)
  | string (s : String)
  | array (items : List Json)
  | object (members : List (String × Json))

namespace Json

instance : Inhabited Json := ⟨.null⟩

/-- An integer as a number, if a word can hold it. -/
def Number.ofInt? (n : Int) : Option Number :=
  if fits : FitsWord n then some (.integer n fits) else none

/-- The double nearest to a number. -/
def Number.toDouble : Number → Double
  | .integer n _ => .ofInt n
  | .double x => .finite x

/-- The integer of 64 bits with a sign that a number is written as. -/
def Number.signedWord? : Number → Option Int
  | .integer n _ => if n ≤ 9223372036854775807 then some n else none
  | .double _ => none

/-- The first member of an object with this name. -/
def member? (j : Json) (name : String) : Option Json :=
  match j with
  | .object members => members.lookup name
  | _ => none

/-- The characters of a string value. -/
def string? : Json → Option String
  | .string s => some s
  | _ => none

/-- Removes from the members of an object each one whose name is used again later. -/
def lastOfEach : List (String × Json) → List (String × Json)
  | [] => []
  | (name, value) :: rest =>
    if rest.any fun member => member.1 == name then lastOfEach rest
    else (name, value) :: lastOfEach rest

mutual

/-- A value in which every object has at most one member of a name: the last one written. -/
def settled : Json → Json
  | .array items => .array (settledItems items)
  | .object members => .object (lastOfEach (settledMembers members))
  | j => j

/-- The values of a list, each settled. -/
def settledItems : List Json → List Json
  | [] => []
  | j :: rest => settled j :: settledItems rest

/-- The members of an object, each with its value settled. -/
def settledMembers : List (String × Json) → List (String × Json)
  | [] => []
  | (name, value) :: rest => (name, settled value) :: settledMembers rest

end

end Json
end RecordFilter
