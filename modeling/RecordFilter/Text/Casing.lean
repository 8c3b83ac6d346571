import RecordFilter.Text.CaseContext
import RecordFilter.Text.LowerCase
import RecordFilter.Text.UpperCase

/-!
# Lower and upper case of a text

Changing case may change the number of characters, and one letter needs to see its neighbours: a
capital sigma at the end of a word becomes a final sigma.

* `Text.lower` — the lower case form of a text.
* `Text.upper` — its upper case form.
-/

set_option autoImplicit false

namespace RecordFilter
namespace Text

/-- The lower case form of a character by itself. -/
def lowerChar (c : Char) : List Char :=
  if c = '\u0130' then ['i', '\u0307'] else [Shift.map lowerShifts c]

/-- Whether the nearest character that is not looked through has case. -/
def meetsCased (text : List Char) : Bool :=
  match text.dropWhile isCaseIgnorable with
  | c :: _ => isCased c
  | [] => false

/-- The lower case form of what is left of a text; `before` holds, in reverse, what was read. -/
def lowerFrom (before : List Char) : List Char → List Char
  | [] => []
  | c :: rest =>
    let form :=
      if c = 'Σ' then
        if meetsCased before && !meetsCased rest then ['ς'] else ['σ']
      else lowerChar c
    form ++ lowerFrom (c :: before) rest

/-- The lower case form of a text. -/
def lower (text : List Char) : List Char := lowerFrom [] text

/-- The upper case form of a character. -/
def upperChar (c : Char) : List Char :=
  match upperExpansions.lookup c.toNat with
  | some forms => forms.map Char.ofNat
  | none => [Shift.map upperShifts c]

/-- The upper case form of a text. -/
def upper (text : List Char) : List Char := text.flatMap upperChar

end Text
end RecordFilter
