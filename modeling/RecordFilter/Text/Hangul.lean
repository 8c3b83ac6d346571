import RecordFilter.Text.Shift

/-!
# Korean syllables

A syllable is spelled by a leading consonant, a vowel and an optional trailing consonant, each a
character of its own, or it is one character that stands for them.  A few vowel signs of another
script behave like the vowels here.

* `Text.Syllable` — the part of a syllable that a character is.
* `Text.Syllable.isFollowedBy` — which part may continue a syllable after which.
-/

set_option autoImplicit false

namespace RecordFilter
namespace Text

/-- The part of a syllable that a character stands for. -/
inductive Syllable where
  /-- A leading consonant. -/
  | lead
  /-- A vowel. -/
  | vowel
  /-- A trailing consonant. -/
  | trail
  /-- A leading consonant with a vowel. -/
  | openSyllable
  /-- A leading consonant with a vowel and a trailing consonant. -/
  | closedSyllable
deriving DecidableEq, Repr

namespace Syllable

/-- The leading consonants. -/
def leadRanges : List (Nat × Nat) := [
  (0x1100, 0x115F), (0xA960, 0xA97C)
]

/-- The vowels. -/
def vowelRanges : List (Nat × Nat) := [
  (0x1160, 0x11A7), (0xD7B0, 0xD7C6), (0x16D63, 0x16D63), (0x16D67, 0x16D6A)
]

/-- The trailing consonants. -/
def trailRanges : List (Nat × Nat) := [
  (0x11A8, 0x11FF), (0xD7CB, 0xD7FB)
]

/-- The part of a syllable that a character is.  The whole syllables run from U+AC00 to U+D7A3:
for each leading consonant and vowel the open syllable, then its twenty-seven closed ones. -/
def of? (c : Char) : Option Syllable :=
  if 0xAC00 ≤ c.toNat ∧ c.toNat ≤ 0xD7A3 then
    some (if (c.toNat - 0xAC00) % 28 = 0 then .openSyllable else .closedSyllable)
  else if inRanges leadRanges c then some .lead
  else if inRanges vowelRanges c then some .vowel
  else if inRanges trailRanges c then some .trail
  else none

/-- Whether the second part continues the syllable that the first one is in. -/
def isFollowedBy : Syllable → Syllable → Bool
  | .lead, .trail => false
  | .lead, _ => true
  | .vowel, next | .openSyllable, next => next = .vowel || next = .trail
  | .trail, next | .closedSyllable, next => next = .trail

end Syllable

end Text
end RecordFilter
