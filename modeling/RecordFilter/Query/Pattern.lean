import RecordFilter.Query
import RecordFilter.Text.Search

/-!
# Patterns of literal text

The patterns of compiled filters are literal texts, possibly tied to the beginning or the end of
what they are matched with.  Case is ignored by simple case folding.

* `Pattern.contains`, `Pattern.startsWith`, `Pattern.endsWith` — the pattern for a text.
* `Pattern.shape?` — the literal text of a pattern and how it is tied; `none` if the source is
  anything else.
* `Pattern.matchesText` — whether a text fits a pattern.
-/

set_option autoImplicit false

namespace RecordFilter
namespace Pattern

/-- The characters that have a meaning of their own somewhere in a regular expression. -/
def specialChars : List Char :=
  ['\\', '.', '+', '*', '?', '(', ')', '|', '[', ']', '\x7b', '\x7d', '^', '$', '#', '&', '-', '~']

/-- The special characters that stand for themselves without a reverse solidus too. -/
def tolerated : List Char := [']', '\x7d', '#', '&', '-', '~']

/-- The source that matches a text and nothing else. -/
def escape (text : List Char) : List Char :=
  text.flatMap fun c => if specialChars.contains c then ['\\', c] else [c]

/-- A text anywhere, in any case. -/
def contains (text : String) : Pattern := ⟨String.ofList (escape text.toList), true⟩

/-- A text at the beginning, in any case. -/
def startsWith (text : String) : Pattern := ⟨String.ofList ('^' :: escape text.toList), true⟩

/-- A text at the end, in any case. -/
def endsWith (text : String) : Pattern := ⟨String.ofList (escape text.toList ++ ['$']), true⟩

/-- Whether a character may stand after a reverse solidus for itself: the ASCII characters that are
no letters, digits or angle brackets. -/
def isEscapable (c : Char) : Bool :=
  c.toNat < 0x80 && !c.isAlphanum && c != '<' && c != '>'

/-- The literal text that a source stands for, and whether it is tied to the end. -/
def literal? : List Char → Option (List Char × Bool)
  | [] => some ([], false)
  | ['$'] => some ([], true)
  | ['\\'] => none
  | '\\' :: c :: rest =>
    if isEscapable c then (literal? rest).map fun (text, toEnd) => (c :: text, toEnd) else none
  | c :: rest =>
    if specialChars.contains c && !tolerated.contains c then none
    else (literal? rest).map fun (text, toEnd) => (c :: text, toEnd)

/-- A literal text and whether it is tied to the beginning and to the end. -/
structure Shape where
  literal : List Char
  fromStart : Bool
  toEnd : Bool
  deriving DecidableEq

/-- The shape of a pattern whose source is a literal text with optional ties. -/
def shape? (p : Pattern) : Option Shape :=
  match p.source.toList with
  | '^' :: rest => (literal? rest).map fun (text, toEnd) => ⟨text, true, toEnd⟩
  | source => (literal? source).map fun (text, toEnd) => ⟨text, false, toEnd⟩

/-- Whether a text fits a pattern; a pattern of no known shape fits nothing. -/
def matchesText (p : Pattern) (text : String) : Bool :=
  match p.shape? with
  | some shape =>
    Text.occurs p.ignoreCase shape.fromStart shape.toEnd shape.literal text.toList
  | none => false

end Pattern
end RecordFilter
