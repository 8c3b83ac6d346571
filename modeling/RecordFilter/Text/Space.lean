/-!
# White space

White space is what Unicode's `White_Space` property names, so a no-break space is white space and a
zero-width space is not.

* `Text.trim` — a text without the white space around it.
* `Text.isBlank` — whether a text is white space only.
-/

set_option autoImplicit false

namespace RecordFilter
namespace Text

/-- Whether a character is white space. -/
def isSpace (c : Char) : Bool :=
  let n := c.toNat
  (9 ≤ n && n ≤ 13) || n == 0x20 || n == 0x85 || n == 0xA0 || n == 0x1680 ||
    (0x2000 ≤ n && n ≤ 0x200A) || n == 0x2028 || n == 0x2029 || n == 0x202F || n == 0x205F ||
    n == 0x3000

/-- The characters of a text without the white space at its two ends. -/
def trimChars (text : List Char) : List Char :=
  ((text.dropWhile isSpace).reverse.dropWhile isSpace).reverse

/-- A text without the white space at its two ends. -/
def trim (text : String) : String := String.ofList (trimChars text.toList)

/-- Whether a text holds nothing but white space. -/
def isBlank (text : String) : Bool := text.toList.all isSpace

/-- Whether two texts are equal up to the case of ASCII letters. -/
def sameIgnoringCase (a b : String) : Bool :=
  a.toList.map Char.toLower == b.toList.map Char.toLower

end Text
end RecordFilter
