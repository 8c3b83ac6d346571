import RecordFilter.Json.Value
import RecordFilter.Text.Space

/-!
# Paths into records

Dots in a path lead into nested records.

* `Path.segments` — the parts of a path between its dots.
* `Json.at?` — the value that a path leads to.
* `Path.under` — a path below another one.
-/

set_option autoImplicit false

namespace RecordFilter
namespace Path

/-- The parts of a text between its dots; a text without dots is one part. -/
def splitAtDots : List Char → List (List Char)
  | [] => [[]]
  | c :: rest =>
    if c = '.' then [] :: splitAtDots rest
    else
      match splitAtDots rest with
      | [] => [[c]]
      | part :: parts => (c :: part) :: parts

/-- The names along a path. -/
def segments (path : String) : List String := (splitAtDots path.toList).map String.ofList

/-- A text without the dots at its end. -/
def withoutFinalDots (text : List Char) : List Char :=
  (text.reverse.dropWhile fun c => c = '.').reverse

/-- The path of a field below `base`.  White space around the two, and dots at the end of `base`,
are ignored; a base that is empty then adds nothing. -/
def under (base field : String) : String :=
  let root := withoutFinalDots (Text.trimChars base.toList)
  let leaf := Text.trimChars field.toList
  if root.isEmpty then String.ofList leaf else String.ofList (root ++ '.' :: leaf)

end Path

/-- The value that the names lead to, through objects only. -/
def Json.follow? : List String → Json → Option Json
  | [], j => some j
  | name :: rest, j => (j.member? name).bind (Json.follow? rest)

/-- The value of a record at a path. -/
def Json.at? (record : Json) (path : String) : Option Json :=
  Json.follow? (Path.segments path) record

end RecordFilter
