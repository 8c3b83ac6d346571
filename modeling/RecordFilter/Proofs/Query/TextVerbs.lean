import RecordFilter.Proofs.Query.Search

/-!
# Verbs for texts

Four verbs ask for a text in the texts of a record: somewhere in them, at their beginning, at their
end, or nowhere.  They compile to patterns, in which the characters of the text are escaped.  This
file says that the text is taken literally, whatever characters it is made of: with all of its
special characters and its white space, and up to case alone.  So the verbs imply one another as the
texts do.

* `Literal.isBlank_of_text?` — a value is blank when its text is.
* `Verb.compilesTo_ofText?` — a verb for a text makes its test of the text of its value.
* `Verb.compilesTo_textVerbs` — the four verbs for all texts.
-/

set_option autoImplicit false

namespace RecordFilter

/-- A value that has a text is blank exactly when the text is. -/
theorem Literal.isBlank_of_text? {value : Literal} {text : String} (h : value.text? = some text)
    (htext : Text.isBlank text = false) : value.isBlank = false := by
  cases value with
  | text s =>
    obtain rfl := Option.some.inj h
    exact htext
  | bool b | number n => rfl
  | list items => exact nomatch h

theorem Json.HasText.mono {p q : String → Prop} (h : ∀ text, p text → q text) {j : Json}
    (hj : j.HasText p) : j.HasText q := by
  cases j with
  | string s => exact h s hj
  | array items =>
    obtain ⟨s, hmem, hs⟩ := hj
    exact ⟨s, hmem, h s hs⟩
  | null | bool b | number n | object members => exact hj

namespace Query

variable {path part : String} {record : Json}

/-- What a test of a text at a path accepts. -/
theorem accepts_fits_iff {pattern : Pattern} {p : String → Prop}
    (h : ∀ text, pattern.matchesText text = true ↔ p text) :
    (field path (.fits pattern)).accepts record = true ↔
      ∃ j, record.at? path = some j ∧ j.HasText p := by
  rw [accepts]
  exact Test.holds_fits_iff h

theorem accepts_fits_contains_iff :
    (field path (.fits (.contains part))).accepts record = true ↔
      ∃ j, record.at? path = some j ∧ j.HasText fun s => Text.Contains s part :=
  accepts_fits_iff fun _ => Pattern.matchesText_contains

theorem accepts_fits_startsWith_iff :
    (field path (.fits (.startsWith part))).accepts record = true ↔
      ∃ j, record.at? path = some j ∧ j.HasText fun s => Text.StartsWith s part :=
  accepts_fits_iff fun _ => Pattern.matchesText_startsWith

theorem accepts_fits_endsWith_iff :
    (field path (.fits (.endsWith part))).accepts record = true ↔
      ∃ j, record.at? path = some j ∧ j.HasText fun s => Text.EndsWith s part :=
  accepts_fits_iff fun _ => Pattern.matchesText_endsWith

/-- A text that is not to be there is a test of the opposite. -/
theorem accepts_failsToFit (pattern : Pattern) :
    (field path (.failsToFit pattern)).accepts record =
      !(field path (.fits pattern)).accepts record := by
  simp only [accepts, Test.holds]

end Query

namespace Verb

variable {settings : Settings} {base field : String} {value : Literal} {text : String}

/-- A verb for a text makes its test of the text of its value. -/
theorem compilesTo_ofText? (hfield : Text.isBlank field = false) (verb : Verb)
    (test : String → Test)
    (hverb : ∀ path argument, verb.query? settings (Text.trim field) path argument =
      Query.quietly (Query.ofText? path
        (argument.single?.filter fun value => !value.isBlank) test))
    (htext : value.text? = some text) (hblank : Text.isBlank text = false) :
    verb.CompilesTo settings base field (.single value)
      (.field (Path.under base (Text.trim field)) (test text)) := by
  rw [← Query.atField_of_named hfield base fun path => .field path (test text)]
  refine compilesTo_atField fun path => ?_
  have hvalue : value.isBlank = false := Literal.isBlank_of_text? htext hblank
  rw [hverb, Argument.filter_single?_of_not_isBlank hvalue, Query.ofText?, Option.bind_some, htext]
  rfl

/-- **Verbs for texts take their text literally.**  Take a field and a value with a text that is not
blank, made of whatever characters.  The rows with the four verbs compile.  *Contains* accepts the
records that have, in the field, a text or an array with a text in which this text stands, up to
simple case folding; *starts with* and *ends with* accept those that have one which begins or ends
with it; and *does not contain* accepts the others.  So what *starts with* or *ends with* accepts
*contains* accepts as well, and *contains* accepts it for every part of the text too that is not
blank. -/
theorem compilesTo_textVerbs (settings : Settings) (base : String) {field : String}
    (hfield : Text.isBlank field = false) {value : Literal} {text : String}
    (htext : value.text? = some text) (hblank : Text.isBlank text = false) :
    ∃ has lacks starts ends : Query,
      contains.CompilesTo settings base field (.single value) has ∧
      notContains.CompilesTo settings base field (.single value) lacks ∧
      startsWith.CompilesTo settings base field (.single value) starts ∧
      endsWith.CompilesTo settings base field (.single value) ends ∧
      (∀ record : Json,
        (has.accepts record = true ↔
          ∃ j, record.at? (Path.under base (Text.trim field)) = some j ∧
            j.HasText fun s => Text.Contains s text) ∧
        (starts.accepts record = true ↔
          ∃ j, record.at? (Path.under base (Text.trim field)) = some j ∧
            j.HasText fun s => Text.StartsWith s text) ∧
        (ends.accepts record = true ↔
          ∃ j, record.at? (Path.under base (Text.trim field)) = some j ∧
            j.HasText fun s => Text.EndsWith s text) ∧
        (lacks.accepts record = true ↔ ¬ has.accepts record = true) ∧
        (starts.accepts record = true → has.accepts record = true) ∧
        (ends.accepts record = true → has.accepts record = true)) ∧
      ∀ (piece : Literal) (part : String), piece.text? = some part → Text.isBlank part = false →
        part.toList <:+: text.toList →
        ∃ hasPart : Query, contains.CompilesTo settings base field (.single piece) hasPart ∧
          ∀ record : Json, has.accepts record = true → hasPart.accepts record = true := by
  have hcontains : ∀ {piece : Literal} {part : String}, piece.text? = some part →
      Text.isBlank part = false → contains.CompilesTo settings base field (.single piece)
        (.field (Path.under base (Text.trim field)) (.fits (.contains part))) :=
    compilesTo_ofText? hfield contains (fun s => .fits (.contains s)) fun _ _ => rfl
  have hlacks : notContains.CompilesTo settings base field (.single value)
      (.field (Path.under base (Text.trim field)) (.failsToFit (.contains text))) :=
    compilesTo_ofText? hfield notContains (fun s => .failsToFit (.contains s)) (fun _ _ => rfl)
      htext hblank
  have hstarts : startsWith.CompilesTo settings base field (.single value)
      (.field (Path.under base (Text.trim field)) (.fits (.startsWith text))) :=
    compilesTo_ofText? hfield startsWith (fun s => .fits (.startsWith s)) (fun _ _ => rfl)
      htext hblank
  have hends : endsWith.CompilesTo settings base field (.single value)
      (.field (Path.under base (Text.trim field)) (.fits (.endsWith text))) :=
    compilesTo_ofText? hfield endsWith (fun s => .fits (.endsWith s)) (fun _ _ => rfl)
      htext hblank
  refine ⟨_, _, _, _, hcontains htext hblank, hlacks, hstarts, hends, fun record => ?_, ?_⟩
  · refine ⟨Query.accepts_fits_contains_iff, Query.accepts_fits_startsWith_iff,
      Query.accepts_fits_endsWith_iff, ?_, ?_, ?_⟩
    · rw [Query.accepts_failsToFit, Bool.not_eq_true', Bool.not_eq_true]
    · rw [Query.accepts_fits_startsWith_iff, Query.accepts_fits_contains_iff]
      rintro ⟨j, hat, hj⟩
      exact ⟨j, hat, hj.mono fun _ => Text.StartsWith.contains⟩
    · rw [Query.accepts_fits_endsWith_iff, Query.accepts_fits_contains_iff]
      rintro ⟨j, hat, hj⟩
      exact ⟨j, hat, hj.mono fun _ => Text.EndsWith.contains⟩
  · intro piece part hpart hnamed hinfix
    refine ⟨_, hcontains hpart hnamed, fun record h => ?_⟩
    rw [Query.accepts_fits_contains_iff] at h ⊢
    obtain ⟨j, hat, hj⟩ := h
    exact ⟨j, hat, hj.mono fun _ hs => hs.of_infix hinfix⟩

/-- A text of special characters, with white space at both ends, in an item of an array: it is found
at the end of the item, in the other case, and so are the brackets in it. -/
theorem compilesTo_textVerbs_special_characters :
    Text.isBlank "tag" = false ∧
    (Literal.text " $[A.b]^ ").text? = some " $[A.b]^ " ∧ Text.isBlank " $[A.b]^ " = false ∧
    ∃ has ends hasPart : Query,
      contains.CompilesTo .atEpoch "" "tag" (.single (.text " $[A.b]^ ")) has ∧
      endsWith.CompilesTo .atEpoch "" "tag" (.single (.text " $[A.b]^ ")) ends ∧
      contains.CompilesTo .atEpoch "" "tag" (.single (.text "[A.b]")) hasPart ∧
      ends.accepts (.object [("tag", .array [.null, .string "x $[a.B]^ "])]) = true ∧
      has.accepts (.object [("tag", .array [.null, .string "x $[a.B]^ "])]) = true ∧
      hasPart.accepts (.object [("tag", .array [.null, .string "x $[a.B]^ "])]) = true ∧
      ends.accepts (.object [("tag", .string "$[aXB]^")]) = false := by
  obtain ⟨has, lacks, starts, ends, hhas, -, -, hends, hrecords, hparts⟩ :=
    compilesTo_textVerbs .atEpoch "" (rfl : Text.isBlank "tag" = false)
      (rfl : (Literal.text " $[A.b]^ ").text? = some " $[A.b]^ ") rfl
  obtain ⟨hasPart, hasPart', hpart⟩ := hparts (.text "[A.b]") "[A.b]" rfl rfl
    ⟨[' ', '$'], ['^', ' '], rfl⟩
  obtain ⟨-, -, hend, -, -, himplies⟩ :=
    hrecords (.object [("tag", .array [.null, .string "x $[a.B]^ "])])
  obtain ⟨-, -, hother, -, -, -⟩ := hrecords (.object [("tag", .string "$[aXB]^")])
  have hfound := hend.2 ⟨_, rfl, "x $[a.B]^ ", by simp, ['x'], by decide +kernel⟩
  refine ⟨rfl, rfl, rfl, has, ends, hasPart, hhas, hends, hasPart', hfound, himplies hfound,
    hpart _ (himplies hfound), ?_⟩
  rw [Bool.eq_false_iff, ne_eq, hother]
  rintro ⟨_, hat, h⟩
  obtain rfl := Option.some.inj hat
  exact absurd h.length_le (by decide)

end Verb
end RecordFilter
