import RecordFilter.Json.Value
import RecordFilter.Number.Shortest

/-!
# The text of a JSON value

Values are written without white space, members in their order.  In a string only the quotation
mark, the reverse solidus and the control characters below U+0020 are escaped.

* `Json.text` — the text of a value.
-/

set_option autoImplicit false

namespace RecordFilter
namespace Json

/-- The lower case hexadecimal digit of a value below sixteen. -/
def hexDigit (n : Nat) : Char :=
  if n < 10 then Char.ofNat (48 + n) else Char.ofNat (87 + n)

/-- How a character is written inside a string. -/
def escaped (c : Char) : List Char :=
  if c = '"' then ['\\', '"']
  else if c = '\\' then ['\\', '\\']
  else if c = '\u0008' then ['\\', 'b']
  else if c = '\u000c' then ['\\', 'f']
  else if c = '\n' then ['\\', 'n']
  else if c = '\r' then ['\\', 'r']
  else if c = '\t' then ['\\', 't']
  else if c.toNat < 0x20 then
    ['\\', 'u', '0', '0', hexDigit (c.toNat / 16), hexDigit (c.toNat % 16)]
  else [c]

/-- A string between quotation marks. -/
def quoted (s : String) : List Char := '"' :: s.toList.flatMap escaped ++ ['"']

/-- The text of a number. -/
def Number.chars : Number → List Char
  | .integer n _ => Digits.signed n
  | .double x => x.text

mutual

/-- The characters of a value's text. -/
def chars : Json → List Char
  | .null => "null".toList
  | .bool true => "true".toList
  | .bool false => "false".toList
  | .number n => n.chars
  | .string s => quoted s
  | .array items => '[' :: itemChars items ++ [']']
  | .object members => '\x7b' :: memberChars members ++ ['\x7d']

/-- The items of an array, separated by commas. -/
def itemChars : List Json → List Char
  | [] => []
  | [j] => chars j
  | j :: next :: rest => chars j ++ ',' :: itemChars (next :: rest)

/-- The members of an object, separated by commas. -/
def memberChars : List (String × Json) → List Char
  | [] => []
  | [(name, value)] => quoted name ++ ':' :: chars value
  | (name, value) :: next :: rest =>
    quoted name ++ ':' :: chars value ++ ',' :: memberChars (next :: rest)

end

/-- The text of a value. -/
def text (j : Json) : String := String.ofList (chars j)

end Json
end RecordFilter
