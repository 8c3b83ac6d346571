import RecordFilter.Text.Conjunct
import RecordFilter.Text.Hangul
import RecordFilter.Text.Marks
import RecordFilter.Text.Pictograph

/-!
# The letters of a text

What a reader sees as one letter may be several characters: a base with its marks, a conjunct of
consonants, a Korean syllable, a flag, or pictures joined to one.

* `Text.isJoiner` — the zero width joiner.
* `Text.continues` — whether a character continues the letter before it.  How far back that looks
  is bounded by the letter, so the letter so far is all it takes.
* `Text.letters` — a text cut into letters.
-/

set_option autoImplicit false

namespace RecordFilter
namespace Text

/-! ## Looking back -/

/-- Whether a character is the zero width joiner. -/
def isJoiner (c : Char) : Bool := c.toNat == 0x200D

/-- Whether a character may stand between a consonant and the consonant linked to it: a mark or
the joiner, but not U+200C, which keeps them apart. -/
def isInsideConjunct (c : Char) : Bool := (isMark c || isJoiner c) && c.toNat != 0x200C

/-- Whether a consonant continues the letter whose characters, last first, are these: they end in
a consonant and signs with a linker among them. -/
def awaitsConsonant (before : List Char) : Bool :=
  (before.takeWhile isInsideConjunct).any isLinker &&
    (before.dropWhile isInsideConjunct).head?.any isConsonant

/-- Whether a pictograph continues the letter whose characters, last first, are these: they end in
a pictograph, its marks and the joiner. -/
def awaitsPictograph : List Char → Bool
  | [] => false
  | last :: before => isJoiner last && (before.dropWhile isMark).head?.any isPictograph

/-- Whether the letter whose characters, last first, are these ends in the first half of a flag. -/
def awaitsRegional (before : List Char) : Bool :=
  (before.takeWhile isRegional).length % 2 == 1

/-- Whether the second character continues the syllable that the first one is in. -/
def continuesSyllable (last c : Char) : Bool :=
  match Syllable.of? last, Syllable.of? c with
  | some part, some next => part.isFollowedBy next
  | _, _ => false

/-! ## Letters -/

/-- Whether a character continues the letter whose characters, last first, are `before`.  Of the
controls only a line feed does, after a carriage return. -/
def continues (before : List Char) (c : Char) : Bool :=
  match before with
  | [] => false
  | last :: _ =>
    if isControl last || isControl c then last == '\r' && c == '\n'
    else
      isMark c || isJoiner c || isSpacingSign c || isLeadingSign last || continuesSyllable last c ||
      (isConsonant c && awaitsConsonant before) ||
      (isPictograph c && awaitsPictograph before) ||
      (isRegional c && awaitsRegional before)

/-- The letters of what is left of a text; `before` is the letter being read, last character
first. -/
def lettersFrom (before : List Char) : List Char → List (List Char)
  | [] => [before.reverse]
  | c :: rest =>
    if continues before c then lettersFrom (c :: before) rest
    else before.reverse :: lettersFrom [c] rest

/-- The letters of a text. -/
def letters : List Char → List (List Char)
  | [] => []
  | c :: rest => lettersFrom [c] rest

end Text
end RecordFilter
