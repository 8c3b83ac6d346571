import RecordFilter.Text.FoldCase

/-!
# Finding a literal in a text

* `Text.afterMatch?` — what follows a literal that a text begins with.
* `Text.occurs` — whether a literal occurs in a text, possibly tied to its beginning or its end.
-/

set_option autoImplicit false

namespace RecordFilter
namespace Text

/-- Whether two characters are the same, up to simple case folding if `ignoreCase` holds. -/
def sameChar (ignoreCase : Bool) (a b : Char) : Bool :=
  if ignoreCase then foldChar a == foldChar b else a == b

/-- What follows the literal in a text that begins with it. -/
def afterMatch? (ignoreCase : Bool) : List Char → List Char → Option (List Char)
  | [], text => some text
  | _ :: _, [] => none
  | a :: literal, b :: text =>
    if sameChar ignoreCase a b then afterMatch? ignoreCase literal text else none

/-- Whether a text begins with the literal and, if `toEnd` holds, ends with it too. -/
def matchesHere (ignoreCase toEnd : Bool) (literal text : List Char) : Bool :=
  match afterMatch? ignoreCase literal text with
  | some rest => !toEnd || rest.isEmpty
  | none => false

/-- Whether the literal stands somewhere in a text, at its end if `toEnd` holds. -/
def matchesSomewhere (ignoreCase toEnd : Bool) (literal : List Char) : List Char → Bool
  | [] => matchesHere ignoreCase toEnd literal []
  | c :: text =>
    matchesHere ignoreCase toEnd literal (c :: text) ||
      matchesSomewhere ignoreCase toEnd literal text

/-- Whether the literal occurs in a text: from its beginning if `fromStart` holds, up to its end
if `toEnd` holds. -/
def occurs (ignoreCase fromStart toEnd : Bool) (literal text : List Char) : Bool :=
  if fromStart then matchesHere ignoreCase toEnd literal text
  else matchesSomewhere ignoreCase toEnd literal text

end Text
end RecordFilter
