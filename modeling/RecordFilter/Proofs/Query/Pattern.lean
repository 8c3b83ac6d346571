import RecordFilter.Query.Matching

/-!
# What patterns of literal text match

A pattern is kept as the source of a regular expression, in which the special characters of the text
are escaped and a circumflex or a dollar sign ties it to the beginning or the end of what it is
matched with.  The source is read again when a text is matched with it.  This file says that nothing
of the text is lost on the way, and that the ties are not taken for text or the text for ties: what
is matched is the text itself, character by character, up to simple case folding.

* `Text.foldChar_of_ascii` — folding makes small letters of the capitals of ASCII and leaves the
  other characters of ASCII as they are.
* `Text.Contains`, `Text.StartsWith`, `Text.EndsWith` — whether a text stands somewhere in another
  one, at its beginning or at its end, in any case; `Text.contains_iff_of_ascii` says what the first
  of them comes to in ASCII.
* `Text.occurs_iff` — the search finds a literal exactly where there is one.
* `Pattern.literal?_escape_append` — an escaped text is read back, whatever follows it.
* `Pattern.shape?_tied` — the pattern for a text has the text and the ties in it.
* `Pattern.matchesText_contains`, `Pattern.matchesText_startsWith`, `Pattern.matchesText_endsWith` —
  what the three patterns for a text match.
-/

set_option autoImplicit false

namespace RecordFilter
namespace Text

/-! ## Folding -/

/-- Shifts that begin after a character do not move it. -/
theorem Shift.map_append_of_lt {front rest : List Shift} {c : Char}
    (h : ∀ s ∈ rest, c.toNat < s.first) : Shift.map (front ++ rest) c = Shift.map front c := by
  have hnone : rest.findSome? (fun s => s.apply? c) = none := by
    rw [List.findSome?_eq_none_iff]
    intro s hs
    have hlt := h s hs
    exact if_neg (by omega)
  rw [map, map, List.findSome?_append, hnone, Option.or_none]

/-- **Folding an ASCII character makes a small letter of a capital** and leaves the others as they
are. -/
theorem foldChar_of_ascii {c : Char} (h : c.toNat < 128) : foldChar c = c.toLower := by
  -- only the first shift of the table begins in ASCII
  have hlate : ∀ s ∈ foldShifts.drop 1, 128 ≤ s.first := by decide +kernel
  have hfirst : ∀ n < 128,
      Shift.map (foldShifts.take 1) (Char.ofNat n) = (Char.ofNat n).toLower := by
    decide +kernel
  calc foldChar c = Shift.map (foldShifts.take 1 ++ foldShifts.drop 1) c := by
        rw [List.take_append_drop, foldChar]
    _ = Shift.map (foldShifts.take 1) c :=
        Shift.map_append_of_lt fun s hs => Nat.lt_of_lt_of_le h (hlate s hs)
    _ = c.toLower := by
        have hc := hfirst c.toNat h
        rwa [Char.ofNat_toNat] at hc

theorem map_foldChar_of_ascii {text : List Char} (h : ∀ c ∈ text, c.toNat < 128) :
    text.map foldChar = text.map Char.toLower :=
  List.map_congr_left fun c hc => foldChar_of_ascii (h c hc)

/-! ## Finding a literal -/

/-- Whether a text stands somewhere in another one, up to simple case folding. -/
def Contains (text part : String) : Prop :=
  part.toList.map foldChar <:+: text.toList.map foldChar

/-- Whether a text begins with another one, up to simple case folding. -/
def StartsWith (text part : String) : Prop :=
  part.toList.map foldChar <+: text.toList.map foldChar

/-- Whether a text ends with another one, up to simple case folding. -/
def EndsWith (text part : String) : Prop :=
  part.toList.map foldChar <:+ text.toList.map foldChar

theorem StartsWith.contains {text part : String} (h : StartsWith text part) : Contains text part :=
  List.IsPrefix.isInfix h

theorem EndsWith.contains {text part : String} (h : EndsWith text part) : Contains text part :=
  List.IsSuffix.isInfix h

/-- A text that contains another one contains the parts of it too. -/
theorem Contains.of_infix {text part piece : String} (h : Contains text part)
    (hpiece : piece.toList <:+: part.toList) : Contains text piece :=
  (hpiece.map foldChar).trans h

/-- An ASCII text contains another one when it does so in small letters. -/
theorem contains_iff_of_ascii {text part : String} (htext : ∀ c ∈ text.toList, c.toNat < 128)
    (hpart : ∀ c ∈ part.toList, c.toNat < 128) :
    Contains text part ↔ part.toList.map Char.toLower <:+: text.toList.map Char.toLower := by
  rw [Contains, map_foldChar_of_ascii htext, map_foldChar_of_ascii hpart]

variable {literal text : List Char} {toEnd : Bool}

/-- A text begins with a literal, up to case, exactly when it does so after folding; if the literal
is tied to the end nothing follows it. -/
theorem matchesHere_iff :
    matchesHere true toEnd literal text = true ↔
      ∃ after, literal.map foldChar ++ after = text.map foldChar ∧ (toEnd = true → after = []) := by
  induction literal generalizing text with
  | nil => cases toEnd <;> simp [matchesHere, afterMatch?]
  | cons a literal ih =>
    cases text with
    | nil => simp [matchesHere, afterMatch?]
    | cons b text =>
      by_cases hsame : foldChar a = foldChar b
      · have hstep : matchesHere true toEnd (a :: literal) (b :: text) =
            matchesHere true toEnd literal text := by
          simp [matchesHere, afterMatch?, sameChar, hsame]
        simp [hstep, ih, hsame]
      · simp [matchesHere, afterMatch?, sameChar, hsame]

/-- A literal is found exactly where the folded text has the folded literal in it. -/
theorem matchesSomewhere_iff :
    matchesSomewhere true toEnd literal text = true ↔
      ∃ before after, before ++ literal.map foldChar ++ after = text.map foldChar ∧
        (toEnd = true → after = []) := by
  induction text with
  | nil =>
    rw [matchesSomewhere, matchesHere_iff]
    constructor
    · rintro ⟨after, heq, hend⟩
      exact ⟨[], after, heq, hend⟩
    · rintro ⟨before, after, heq, hend⟩
      obtain ⟨hfront, rfl⟩ := List.append_eq_nil_iff.1 heq
      exact ⟨[], by simpa using (List.append_eq_nil_iff.1 hfront).2, fun _ => rfl⟩
  | cons c text ih =>
    rw [matchesSomewhere, Bool.or_eq_true, matchesHere_iff, ih, List.map_cons]
    constructor
    · rintro (⟨after, heq, hend⟩ | ⟨before, after, heq, hend⟩)
      · exact ⟨[], after, heq, hend⟩
      · exact ⟨foldChar c :: before, after, by rw [← heq]; rfl, hend⟩
    · rintro ⟨before, after, heq, hend⟩
      cases before with
      | nil => exact Or.inl ⟨after, heq, hend⟩
      | cons d before => exact Or.inr ⟨before, after, (List.cons.inj heq).2, hend⟩

/-- **A literal is found exactly where the folded text has the folded literal in it**, with nothing
before it or after it where it is tied. -/
theorem occurs_iff {fromStart : Bool} :
    occurs true fromStart toEnd literal text = true ↔
      ∃ before after, before ++ literal.map foldChar ++ after = text.map foldChar ∧
        (fromStart = true → before = []) ∧ (toEnd = true → after = []) := by
  cases fromStart with
  | false => simp [occurs, matchesSomewhere_iff]
  | true =>
    rw [occurs, if_pos rfl, matchesHere_iff]
    constructor
    · rintro ⟨after, heq, hend⟩
      exact ⟨[], after, heq, fun _ => rfl, hend⟩
    · rintro ⟨before, after, heq, hstart, hend⟩
      obtain rfl := hstart rfl
      exact ⟨after, heq, hend⟩

end Text

/-! ## Escaped texts -/

namespace Pattern

/-- A special character is escaped, and read as itself. -/
theorem literal?_special {c : Char} (h : c ∈ specialChars) (rest : List Char) :
    literal? ('\\' :: c :: rest) =
      (literal? rest).map fun (more, toEnd) => (c :: more, toEnd) := by
  have hescapable : ∀ c ∈ specialChars, isEscapable c = true := List.all_eq_true.1 (by decide)
  rw [literal?, if_pos (hescapable c h)]

/-- Any other character stands for itself. -/
theorem literal?_plain {c : Char} (h : c ∉ specialChars) (rest : List Char) :
    literal? (c :: rest) = (literal? rest).map fun (more, toEnd) => (c :: more, toEnd) := by
  have hne : ∀ special ∈ specialChars, c ≠ special := fun special hmem heq => h (heq ▸ hmem)
  have hplain : specialChars.contains c = false := by simpa using h
  rw [literal?, hplain]
  · rfl
  · exact fun heq => absurd heq (hne '$' (by decide))
  · exact fun heq => absurd heq (hne '\\' (by decide))
  · exact fun _ _ heq => absurd heq (hne '\\' (by decide))

theorem escape_cons_special {c : Char} (h : c ∈ specialChars) (text : List Char) :
    escape (c :: text) = '\\' :: c :: escape text := by
  rw [escape, List.flatMap_cons, if_pos (List.contains_iff_mem.2 h)]
  rfl

theorem escape_cons_plain {c : Char} (h : c ∉ specialChars) (text : List Char) :
    escape (c :: text) = c :: escape text := by
  rw [escape, List.flatMap_cons, if_neg (mt List.contains_iff_mem.1 h)]
  rfl

/-- **An escaped text is read back**, and what follows it is read by itself. -/
theorem literal?_escape_append (text rest : List Char) :
    literal? (escape text ++ rest) =
      (literal? rest).map fun (more, toEnd) => (text ++ more, toEnd) := by
  induction text with
  | nil => exact Option.map_id'.symm
  | cons c text ih =>
    have hread : (literal? (escape text ++ rest)).map (fun (more, toEnd) => (c :: more, toEnd)) =
        (literal? rest).map fun (more, toEnd) => (c :: text ++ more, toEnd) := by
      rw [ih, Option.map_map]
      rfl
    rw [← hread]
    by_cases hspecial : c ∈ specialChars
    · rw [escape_cons_special hspecial]
      exact literal?_special hspecial (escape text ++ rest)
    · rw [escape_cons_plain hspecial]
      exact literal?_plain hspecial (escape text ++ rest)

/-- The escaped text is not taken for a tie to the beginning: a circumflex in the text is escaped
too. -/
theorem escape_append_ne_circumflex {rest : List Char} (hrest : rest.head? ≠ some '^')
    (text more : List Char) : escape text ++ rest ≠ '^' :: more := by
  cases text with
  | nil =>
    intro h
    exact hrest (congrArg List.head? h)
  | cons c text =>
    by_cases hspecial : c ∈ specialChars
    · rw [escape_cons_special hspecial]
      exact fun h => absurd (List.cons.inj h).1 (by decide)
    · rw [escape_cons_plain hspecial]
      intro h
      exact hspecial ((List.cons.inj h).1 ▸ by decide)

/-! ## Patterns with ties -/

/-- The pattern for a text, tied to the beginning or to the end. -/
def tied (fromStart toEnd : Bool) (text : String) : Pattern :=
  ⟨String.ofList ((if fromStart then ['^'] else []) ++
    (escape text.toList ++ if toEnd then ['$'] else [])), true⟩

theorem contains_eq_tied (text : String) : contains text = tied false false text := by
  simp [contains, tied]

theorem startsWith_eq_tied (text : String) : startsWith text = tied true false text := by
  simp [startsWith, tied]

theorem endsWith_eq_tied (text : String) : endsWith text = tied false true text := by
  simp [endsWith, tied]

/-- A source without a circumflex at its beginning is not tied to the beginning. -/
theorem shape?_of_ne_circumflex {source : List Char} (h : ∀ more, source ≠ '^' :: more)
    (ignoreCase : Bool) :
    (Pattern.mk (String.ofList source) ignoreCase).shape? =
      (literal? source).map fun (text, toEnd) => ⟨text, false, toEnd⟩ := by
  rw [shape?, String.toList_ofList]
  split
  · rename_i more
    exact absurd rfl (h more)
  · rfl

/-- **A pattern is read as the text that it is for, with its ties.** -/
theorem shape?_tied (fromStart toEnd : Bool) (text : String) :
    (tied fromStart toEnd text).shape? = some ⟨text.toList, fromStart, toEnd⟩ := by
  have hend : literal? (if toEnd then ['$'] else []) = some ([], toEnd) := by
    cases toEnd <;> rfl
  have hliteral : literal? (escape text.toList ++ if toEnd then ['$'] else []) =
      some (text.toList, toEnd) := by
    simp [literal?_escape_append, hend]
  cases fromStart with
  | true =>
    rw [shape?, tied, String.toList_ofList]
    show (literal? (escape text.toList ++ if toEnd then ['$'] else [])).map _ = _
    rw [hliteral]
    rfl
  | false =>
    have htie : (if toEnd then ['$'] else []).head? ≠ some '^' := by
      cases toEnd <;> decide
    rw [tied, if_neg Bool.false_ne_true, List.nil_append,
      shape?_of_ne_circumflex (escape_append_ne_circumflex htie text.toList), hliteral]
    rfl

theorem matchesText_tied {fromStart toEnd : Bool} {text part : String} :
    (tied fromStart toEnd part).matchesText text = true ↔
      ∃ before after,
        before ++ part.toList.map Text.foldChar ++ after = text.toList.map Text.foldChar ∧
          (fromStart = true → before = []) ∧ (toEnd = true → after = []) := by
  rw [matchesText, shape?_tied]
  exact Text.occurs_iff

/-- **The pattern for a text matches the texts that have it in them**, in any case. -/
theorem matchesText_contains {text part : String} :
    (contains part).matchesText text = true ↔ Text.Contains text part := by
  rw [contains_eq_tied, matchesText_tied, Text.Contains, List.IsInfix]
  simp

/-- **Tied to the beginning it matches the texts that begin with it.** -/
theorem matchesText_startsWith {text part : String} :
    (startsWith part).matchesText text = true ↔ Text.StartsWith text part := by
  rw [startsWith_eq_tied, matchesText_tied, Text.StartsWith, List.IsPrefix]
  simp

/-- **Tied to the end it matches the texts that end with it.** -/
theorem matchesText_endsWith {text part : String} :
    (endsWith part).matchesText text = true ↔ Text.EndsWith text part := by
  rw [endsWith_eq_tied, matchesText_tied, Text.EndsWith, List.IsSuffix]
  simp

end Pattern
end RecordFilter
