import RecordFilter.Json.Numeral

/-!
# The structure of a JSON text

A text is first taken apart without asking what its numbers and strings stand for: an oversized
number or half of a surrogate pair is no error of structure, and matters only where the value is
used.

* `Piece` — a character of a string, or a code unit given by its number.
* `Source` — a value as it is written.
* `Source.ofText?` — takes a whole text apart; `none` if it is not JSON.
* `Piece.text?` — the text of a string; `none` if a surrogate stands alone.
-/

set_option autoImplicit false

namespace RecordFilter

/-- A part of a string as it is written: a character, or a code unit of UTF-16 by number. -/
inductive Piece where
  | char (c : Char)
  | unit (code : Nat)

/-- A value as it is written. -/
inductive Source where
  | null
  | bool (b : Bool)
  | number (n : Numeral)
  | string (pieces : List Piece)
  | array (items : List Source)
  | object (members : List (List Piece × Source))

/-! ## Strings -/

namespace Piece

/-- The value of a hexadecimal digit. -/
def hexValue? (c : Char) : Option Nat :=
  if '0' ≤ c ∧ c ≤ '9' then some (c.toNat - 48)
  else if 'a' ≤ c ∧ c ≤ 'f' then some (c.toNat - 87)
  else if 'A' ≤ c ∧ c ≤ 'F' then some (c.toNat - 55)
  else none

/-- The code unit that four hexadecimal digits name. -/
def unit? (a b c d : Char) : Option Piece :=
  match hexValue? a, hexValue? b, hexValue? c, hexValue? d with
  | some w, some x, some y, some z => some (.unit (((w * 16 + x) * 16 + y) * 16 + z))
  | _, _, _, _ => none

/-- The character that follows a reverse solidus in place of another one. -/
def escape? (c : Char) : Option Piece :=
  if c = '"' ∨ c = '\\' ∨ c = '/' then some (.char c)
  else if c = 'b' then some (.char '\u0008')
  else if c = 'f' then some (.char '\u000c')
  else if c = 'n' then some (.char '\n')
  else if c = 'r' then some (.char '\r')
  else if c = 't' then some (.char '\t')
  else none

/-- The pieces of a string up to its closing quotation mark, and what follows the mark. -/
def takeString? : List Char → Option (List Piece × List Char)
  | [] => none
  | '"' :: rest => some ([], rest)
  | '\\' :: 'u' :: a :: b :: c :: d :: rest =>
    match unit? a b c d, takeString? rest with
    | some piece, some (pieces, after) => some (piece :: pieces, after)
    | _, _ => none
  | '\\' :: c :: rest =>
    match escape? c, takeString? rest with
    | some piece, some (pieces, after) => some (piece :: pieces, after)
    | _, _ => none
  | c :: rest =>
    if c.toNat < 0x20 ∨ c = '\\' then none
    else
      match takeString? rest with
      | some (pieces, after) => some (.char c :: pieces, after)
      | none => none

/-- Whether a code unit is the first half of a surrogate pair. -/
def isHighSurrogate (code : Nat) : Bool := 0xD800 ≤ code && code < 0xDC00

/-- Whether a code unit is the second half of a surrogate pair. -/
def isLowSurrogate (code : Nat) : Bool := 0xDC00 ≤ code && code < 0xE000

/-- The characters that the pieces of a string stand for. -/
def chars? : List Piece → Option (List Char)
  | [] => some []
  | .char c :: rest => (chars? rest).map (c :: ·)
  | .unit high :: .unit low :: rest =>
    if isHighSurrogate high then
      if isLowSurrogate low then
        (chars? rest).map (Char.ofNat (0x10000 + (high - 0xD800) * 0x400 + (low - 0xDC00)) :: ·)
      else none
    else if isLowSurrogate high then none
    else (chars? (.unit low :: rest)).map (Char.ofNat high :: ·)
  | .unit code :: rest =>
    if isHighSurrogate code || isLowSurrogate code then none
    else (chars? rest).map (Char.ofNat code :: ·)

/-- The text that the pieces of a string stand for. -/
def text? (pieces : List Piece) : Option String := (chars? pieces).map String.ofList

end Piece

/-! ## Values -/

namespace Source

/-- A text without the white space at its front.  JSON knows four characters of white space. -/
def skipSpace (text : List Char) : List Char :=
  text.dropWhile fun c => c = ' ' || c = '\n' || c = '\t' || c = '\r'

mutual

/-- The value at the front of a text.  Each nested step takes one unit of `fuel`. -/
def takeValue? : Nat → List Char → Option (Source × List Char)
  | 0, _ => none
  | fuel + 1, text =>
    match skipSpace text with
    | 'n' :: 'u' :: 'l' :: 'l' :: rest => some (.null, rest)
    | 't' :: 'r' :: 'u' :: 'e' :: rest => some (.bool true, rest)
    | 'f' :: 'a' :: 'l' :: 's' :: 'e' :: rest => some (.bool false, rest)
    | '"' :: rest =>
      match Piece.takeString? rest with
      | some (pieces, after) => some (.string pieces, after)
      | none => none
    | '[' :: rest =>
      match skipSpace rest with
      | ']' :: after => some (.array [], after)
      | _ =>
        match takeItems? fuel rest with
        | some (items, after) => some (.array items, after)
        | none => none
    | '\x7b' :: rest =>
      match skipSpace rest with
      | '\x7d' :: after => some (.object [], after)
      | _ =>
        match takeMembers? fuel rest with
        | some (members, after) => some (.object members, after)
        | none => none
    | text =>
      match Numeral.take? text with
      | some (numeral, after) => some (.number numeral, after)
      | none => none

/-- The items of an array, of which there is at least one, and its closing bracket. -/
def takeItems? : Nat → List Char → Option (List Source × List Char)
  | 0, _ => none
  | fuel + 1, text =>
    match takeValue? fuel text with
    | none => none
    | some (item, afterItem) =>
      match skipSpace afterItem with
      | ']' :: after => some ([item], after)
      | ',' :: rest =>
        match takeItems? fuel rest with
        | some (items, after) => some (item :: items, after)
        | none => none
      | _ => none

/-- The members of an object, of which there is at least one, and its closing brace. -/
def takeMembers? : Nat → List Char → Option (List (List Piece × Source) × List Char)
  | 0, _ => none
  | fuel + 1, text =>
    match skipSpace text with
    | '"' :: name =>
      match Piece.takeString? name with
      | none => none
      | some (pieces, afterName) =>
        match skipSpace afterName with
        | ':' :: afterColon =>
          match takeValue? fuel afterColon with
          | none => none
          | some (value, afterValue) =>
            match skipSpace afterValue with
            | '\x7d' :: after => some ([(pieces, value)], after)
            | ',' :: rest =>
              match takeMembers? fuel rest with
              | some (members, after) => some ((pieces, value) :: members, after)
              | none => none
            | _ => none
        | _ => none
    | _ => none

end

/-- Takes a whole text apart.  Every two nested steps consume a character, so the fuel suffices. -/
def ofText? (text : String) : Option Source :=
  match takeValue? (2 * text.toList.length + 2) text.toList with
  | some (source, rest) => if (skipSpace rest).isEmpty then some source else none
  | none => none

end Source
end RecordFilter
