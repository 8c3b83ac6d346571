import RecordFilter.Text.Casing
import RecordFilter.Text.Letter

/-!
# Titles from identifiers

An identifier such as `linkedIn`, `zip_code` or `HTTPServer` is cut into words, and each word is
written with a capital.

* `Text.words` — the words of an identifier.  An underscore, a hyphen or a space ends a word and
  disappears; a word also ends between a lower and an upper case letter, between a letter and an
  ASCII digit, and before the last capital of an acronym.
* `Text.title` — the words with capitals, separated by spaces.
-/

set_option autoImplicit false

namespace RecordFilter
namespace Text

/-- Whether a letter has case and is in upper case. -/
def isUpper (letter : List Char) : Bool :=
  upper letter != lower letter && letter == upper letter

/-- Whether a letter has case and is in lower case. -/
def isLower (letter : List Char) : Bool :=
  upper letter != lower letter && letter == lower letter

/-- Whether a letter is an ASCII digit. -/
def isDigit (letter : List Char) : Bool := letter.all Char.isDigit

/-- Whether a letter separates words. -/
def isSeparator (letter : List Char) : Bool :=
  letter == ['_'] || letter == ['-'] || letter == [' ']

/-- Whether a word ends between this letter and the ones that follow it. -/
def endsWord (letter : List Char) : List (List Char) → Bool
  | [] => false
  | next :: rest =>
    (isLower letter && (isUpper next || isDigit next)) ||
    (isUpper letter && isDigit next) ||
    (isDigit letter && (isLower next || isUpper next)) ||
    (isUpper letter && isUpper next && (rest.head?.any isLower))

/-- The words of what is left of an identifier; `word` is the word being read. -/
def wordsFrom (word : List (List Char)) : List (List Char) → List (List (List Char))
  | [] => [word]
  | letter :: rest =>
    if isSeparator letter then word :: wordsFrom [] rest
    else if endsWord letter rest then (word ++ [letter]) :: wordsFrom [] rest
    else wordsFrom (word ++ [letter]) rest

/-- The words of an identifier. -/
def words (text : List Char) : List (List (List Char)) :=
  (wordsFrom [] (letters text)).filter fun word => !word.isEmpty

/-- A word with its first letter in upper case and the others in lower case. -/
def capitalized : List (List Char) → List Char
  | [] => []
  | letter :: rest => upper letter ++ lower rest.flatten

/-- The words of an identifier with capitals, separated by spaces. -/
def title (text : List Char) : List Char :=
  ((words text).map capitalized).intersperse [' '] |>.flatten

end Text
end RecordFilter
