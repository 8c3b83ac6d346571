import RecordFilter.Json.Source
import RecordFilter.Proofs.Json.Numeral

/-!
# Written values

The text of a value is taken apart into the parts that it was put together from.  The numbers of the
value have to be written so that they are read back; nothing is asked of its strings.

* `Piece.takeString?_flatMap`, `Piece.chars?_map_ofChar` — a string is read back, whatever its
  characters are.
* `Json.numbers` — the numbers in a value.
* `Json.source` — the parts of the text of a value.
* `Source.takeValue?_chars` — they are taken from the front of any text that goes on with a comma, a
  bracket or a brace.
* `Source.ofText?_text` — and from the text itself.
-/

set_option autoImplicit false

namespace RecordFilter

/-! ## Strings -/

namespace Piece

/-- The piece that a character of a string is written as.  A control character that has no letter of
its own is written by its number. -/
def ofChar (c : Char) : Piece :=
  if c.toNat < 0x20 ∧ c ∉ ['\u0008', '\u000c', '\n', '\r', '\t'] then .unit c.toNat else .char c

theorem hexValue?_hexDigit : ∀ n < 16, hexValue? (Json.hexDigit n) = some n := by decide

/-- The number of a control character is written with four digits. -/
theorem unit?_hexDigit {n : Nat} (h : n < 0x20) :
    unit? '0' '0' (Json.hexDigit (n / 16)) (Json.hexDigit (n % 16)) = some (.unit n) := by
  have hzero : hexValue? '0' = some 0 := by decide
  have hvalue : 0 * 16 + n / 16 = n / 16 := by omega
  rw [unit?, hzero, hexValue?_hexDigit _ (by omega), hexValue?_hexDigit _ (by omega)]
  dsimp only
  rw [hvalue, Nat.div_add_mod']

/-- The characters that are written as a reverse solidus and a letter. -/
def lettered : List Char := ['"', '\\', '\u0008', '\u000c', '\n', '\r', '\t']

theorem exists_letter {c : Char} (h : c ∈ lettered) :
    ∃ letter, Json.escaped c = ['\\', letter] ∧ letter ≠ 'u' ∧ escape? letter = some (.char c) ∧
      ofChar c = .char c := by
  simp only [lettered, List.mem_cons, List.not_mem_nil, or_false] at h
  rcases h with rfl | rfl | rfl | rfl | rfl | rfl | rfl
  · exact ⟨'"', rfl, by decide, rfl, rfl⟩
  · exact ⟨'\\', rfl, by decide, rfl, rfl⟩
  · exact ⟨'b', rfl, by decide, rfl, rfl⟩
  · exact ⟨'f', rfl, by decide, rfl, rfl⟩
  · exact ⟨'n', rfl, by decide, rfl, rfl⟩
  · exact ⟨'r', rfl, by decide, rfl, rfl⟩
  · exact ⟨'t', rfl, by decide, rfl, rfl⟩

theorem escaped_of_not_mem {c : Char} (h : c ∉ lettered) :
    Json.escaped c =
      if c.toNat < 0x20 then
        ['\\', 'u', '0', '0', Json.hexDigit (c.toNat / 16), Json.hexDigit (c.toNat % 16)]
      else [c] := by
  simp only [lettered, List.mem_cons, List.not_mem_nil, or_false, not_or] at h
  obtain ⟨hquote, hsolidus, hbackspace, hfeed, hline, hreturn, htab⟩ := h
  rw [Json.escaped, if_neg hquote, if_neg hsolidus, if_neg hbackspace, if_neg hfeed, if_neg hline,
    if_neg hreturn, if_neg htab]

/-- **A written character is read as the piece that it was written as.** -/
theorem takeString?_escaped (c : Char) (tail : List Char) :
    takeString? (Json.escaped c ++ tail) =
      (takeString? tail).map fun found => (ofChar c :: found.1, found.2) := by
  by_cases hletter : c ∈ lettered
  · obtain ⟨letter, hescaped, hne, hescape, hpiece⟩ := exists_letter hletter
    rw [hescaped, List.cons_append, List.singleton_append, takeString?, hescape, hpiece]
    · cases takeString? tail <;> rfl
    · exact fun a b c d rest hu => absurd hu hne
  · rw [escaped_of_not_mem hletter]
    by_cases hcontrol : c.toNat < 0x20
    · have hpiece : ofChar c = .unit c.toNat := by
        refine if_pos ⟨hcontrol, fun hc => hletter ?_⟩
        exact List.mem_cons_of_mem _ (List.mem_cons_of_mem _ hc)
      rw [if_pos hcontrol, hpiece]
      simp only [List.cons_append, List.nil_append]
      rw [takeString?, unit?_hexDigit hcontrol]
      cases takeString? tail <;> rfl
    · have hpiece : ofChar c = .char c := if_neg fun h => hcontrol h.1
      have hquote : c ≠ '"' := by
        rintro rfl
        exact hletter (by decide)
      have hsolidus : c ≠ '\\' := by
        rintro rfl
        exact hletter (by decide)
      rw [if_neg hcontrol, hpiece, List.singleton_append, takeString?]
      · rw [if_neg (by simp [hcontrol, hsolidus])]
        cases takeString? tail <;> rfl
      · exact hquote
      · rintro a b d e rest rfl
        exact absurd rfl hsolidus
      · rintro d rest rfl
        exact absurd rfl hsolidus

/-- **A written string is taken up to its closing quotation mark.** -/
theorem takeString?_flatMap (s tail : List Char) :
    takeString? (s.flatMap Json.escaped ++ '"' :: tail) = some (s.map ofChar, tail) := by
  induction s with
  | nil => rfl
  | cons c s ih =>
    rw [List.flatMap_cons, List.append_assoc, takeString?_escaped, ih]
    rfl

/-- A code unit that is no half of a surrogate pair stands for a character by itself. -/
theorem chars?_unit_cons {code : Nat} (h : code < 0xD800) (rest : List Piece) :
    chars? (.unit code :: rest) = (chars? rest).map (Char.ofNat code :: ·) := by
  have hhigh : isHighSurrogate code = false := by
    rw [isHighSurrogate, Bool.and_eq_false_iff]
    exact Or.inl (decide_eq_false (by omega))
  have hlow : isLowSurrogate code = false := by
    rw [isLowSurrogate, Bool.and_eq_false_iff]
    exact Or.inl (decide_eq_false (by omega))
  rcases rest with _ | ⟨c | low, rest⟩ <;> simp [chars?, hhigh, hlow]

/-- **A string is read back**, whatever its characters are. -/
theorem chars?_map_ofChar (s : List Char) : chars? (s.map ofChar) = some s := by
  induction s with
  | nil => rfl
  | cons c s ih =>
    rw [List.map_cons]
    by_cases hunit : c.toNat < 0x20 ∧ c ∉ ['\u0008', '\u000c', '\n', '\r', '\t']
    · have hpiece : ofChar c = .unit c.toNat := if_pos hunit
      rw [hpiece, chars?_unit_cons (by omega), ih, Char.ofNat_toNat]
      rfl
    · have hpiece : ofChar c = .char c := if_neg hunit
      rw [hpiece, chars?, ih]
      rfl

end Piece

/-! ## The parts of a value -/

namespace Json

mutual

/-- The numbers in a value, in order. -/
def numbers : Json → List Number
  | .number n => [n]
  | .array items => itemNumbers items
  | .object members => memberNumbers members
  | .null | .bool _ | .string _ => []

/-- The numbers in the items of an array. -/
def itemNumbers : List Json → List Number
  | [] => []
  | j :: rest => numbers j ++ itemNumbers rest

/-- The numbers in the members of an object. -/
def memberNumbers : List (String × Json) → List Number
  | [] => []
  | (_, j) :: rest => numbers j ++ memberNumbers rest

end

namespace Number

/-- The numeral at the front of the text of a number. -/
def numeral (n : Number) : Numeral :=
  match Numeral.take? n.chars with
  | some (numeral, _) => numeral
  | none => ⟨false, [], none, none⟩

variable {n : Number}

theorem IsReadBack.take?_chars (h : n.IsReadBack) :
    Numeral.take? n.chars = some (n.numeral, []) := by
  obtain ⟨numeral, htake, -⟩ := isReadBack_iff.1 h
  rw [Number.numeral, htake]

theorem IsReadBack.number?_numeral (h : n.IsReadBack) : n.numeral.number? = some n := by
  obtain ⟨numeral, htake, hnumber⟩ := isReadBack_iff.1 h
  rw [Number.numeral, htake]
  exact hnumber

end Number

mutual

/-- The parts that the text of a value is put together from. -/
def source : Json → Source
  | .null => .null
  | .bool b => .bool b
  | .number n => .number n.numeral
  | .string s => .string (s.toList.map Piece.ofChar)
  | .array items => .array (itemSources items)
  | .object members => .object (memberSources members)

/-- The parts of the items of an array. -/
def itemSources : List Json → List Source
  | [] => []
  | j :: rest => source j :: itemSources rest

/-- The parts of the members of an object. -/
def memberSources : List (String × Json) → List (List Piece × Source)
  | [] => []
  | (name, j) :: rest => (name.toList.map Piece.ofChar, source j) :: memberSources rest

end

/-- The text of a value begins neither with white space nor with a closing bracket. -/
theorem exists_cons_chars {j : Json} (h : ∀ n ∈ j.numbers, n.IsReadBack) :
    ∃ c tail, j.chars = c :: tail ∧ c ∉ [' ', '\n', '\t', '\r', ']'] := by
  cases j with
  | null => exact ⟨'n', _, rfl, by decide⟩
  | bool b => cases b <;> exact ⟨_, _, rfl, by decide⟩
  | string s => exact ⟨'"', _, rfl, by decide⟩
  | array items => exact ⟨'[', _, rfl, by decide⟩
  | object members => exact ⟨'\x7b', _, rfl, by decide⟩
  | number n =>
    have hn : n.IsReadBack := h n (List.mem_singleton.2 rfl)
    obtain ⟨c, tail, hchars, hc⟩ := Numeral.exists_cons_of_take? hn.take?_chars
    refine ⟨c, tail, hchars, fun hmem => Numeral.not_mem_of_begins hc ?_⟩
    exact List.mem_append_left ['n', 't', 'f', '"', '[', '\x7b'] hmem

end Json

namespace Source

/-! ## Taking a text apart -/

theorem skipSpace_cons {c : Char} (h : c ∉ [' ', '\n', '\t', '\r']) (tail : List Char) :
    skipSpace (c :: tail) = c :: tail := by
  simp only [List.mem_cons, List.not_mem_nil, or_false, not_or] at h
  obtain ⟨hblank, hline, htab, hreturn⟩ := h
  simp [skipSpace, hblank, hline, htab, hreturn]

/-- A text that begins like a numeral is taken for one. -/
theorem takeValue?_numeral {fuel : Nat} {text after : List Char} {numeral : Numeral}
    (h : Numeral.take? text = some (numeral, after)) :
    takeValue? (fuel + 1) text = some (.number numeral, after) := by
  obtain ⟨c, tail, rfl, hc⟩ := Numeral.exists_cons_of_take? h
  have hne := Numeral.not_mem_of_begins hc
  simp only [List.mem_cons, List.not_mem_nil, or_false, not_or] at hne
  have hspace : skipSpace (c :: tail) = c :: tail :=
    skipSpace_cons (by simp [hne]) tail
  rw [takeValue?, hspace]
  split
  case h_7 => rw [h]
  all_goals
    rename_i heq
    have hhead := (List.cons.inj heq).1
    simp [hhead] at hne

/-! What comes first decides how a text goes on, so each of these says how. -/

theorem takeValue?_quote (fuel : Nat) (text : List Char) :
    takeValue? (fuel + 1) ('"' :: text) =
      match Piece.takeString? text with
      | some (pieces, after) => some (.string pieces, after)
      | none => none := rfl

theorem takeValue?_bracket (fuel : Nat) (text : List Char) :
    takeValue? (fuel + 1) ('[' :: text) =
      match skipSpace text with
      | ']' :: after => some (.array [], after)
      | _ =>
        match takeItems? fuel text with
        | some (items, after) => some (.array items, after)
        | none => none := rfl

theorem takeValue?_brace (fuel : Nat) (text : List Char) :
    takeValue? (fuel + 1) ('\x7b' :: text) =
      match skipSpace text with
      | '\x7d' :: after => some (.object [], after)
      | _ =>
        match takeMembers? fuel text with
        | some (members, after) => some (.object members, after)
        | none => none := rfl

/-- Items are taken from behind an opening bracket, if no closing one follows it. -/
theorem takeValue?_array {fuel : Nat} {text after : List Char} {items : List Source} {c : Char}
    {tail : List Char} (htext : text = c :: tail) (hc : c ∉ [' ', '\n', '\t', '\r', ']'])
    (h : takeItems? fuel text = some (items, after)) :
    takeValue? (fuel + 1) ('[' :: text) = some (.array items, after) := by
  subst htext
  rw [takeValue?_bracket, h,
    skipSpace_cons (fun hspace => hc (List.mem_append_left [']'] hspace))]
  split
  case h_1 heq =>
    obtain ⟨rfl, -⟩ := List.cons.inj heq
    exact absurd (by decide) hc
  case h_2 => rfl

/-- Members are taken from behind an opening brace, if a name follows it. -/
theorem takeValue?_object {fuel : Nat} {text after : List Char}
    {members : List (List Piece × Source)}
    (h : takeMembers? fuel ('"' :: text) = some (members, after)) :
    takeValue? (fuel + 1) ('\x7b' :: '"' :: text) = some (.object members, after) := by
  rw [takeValue?_brace, h]
  rfl

/-- The text of a string begins with a quotation mark, in front of which there is no space. -/
theorem skipSpace_quoted (name : String) (text : List Char) :
    skipSpace (Json.quoted name ++ text) =
      '"' :: (name.toList.flatMap Json.escaped ++ '"' :: text) := by
  have hquoted : Json.quoted name ++ text =
      '"' :: (name.toList.flatMap Json.escaped ++ '"' :: text) := by
    simp [Json.quoted]
  rw [hquoted, skipSpace_cons (by decide)]

/-- An item is taken with what follows it: the end of the array, or a comma and further items. -/
theorem takeItems?_last {fuel : Nat} {text rest : List Char} {item : Source}
    (h : takeValue? fuel text = some (item, ']' :: rest)) :
    takeItems? (fuel + 1) text = some ([item], rest) := by
  rw [takeItems?, h]
  rfl

theorem takeItems?_cons {fuel : Nat} {text more rest : List Char} {item : Source}
    {items : List Source} (h : takeValue? fuel text = some (item, ',' :: more))
    (hmore : takeItems? fuel more = some (items, rest)) :
    takeItems? (fuel + 1) text = some (item :: items, rest) := by
  rw [takeItems?, h]
  simp only [skipSpace_cons (show ',' ∉ _ by decide), hmore]

/-- A member is taken with what follows it: the end of the object, or a comma and further
members. -/
theorem takeMembers?_last {fuel : Nat} {name : String} {text rest : List Char} {value : Source}
    (h : takeValue? fuel text = some (value, '\x7d' :: rest)) :
    takeMembers? (fuel + 1) (Json.quoted name ++ ':' :: text) =
      some ([(name.toList.map Piece.ofChar, value)], rest) := by
  rw [takeMembers?, skipSpace_quoted]
  simp only [Piece.takeString?_flatMap, skipSpace_cons (show ':' ∉ _ by decide), h,
    skipSpace_cons (show '\x7d' ∉ _ by decide)]

theorem takeMembers?_cons {fuel : Nat} {name : String} {text more rest : List Char}
    {value : Source} {members : List (List Piece × Source)}
    (h : takeValue? fuel text = some (value, ',' :: more))
    (hmore : takeMembers? fuel more = some (members, rest)) :
    takeMembers? (fuel + 1) (Json.quoted name ++ ':' :: text) =
      some ((name.toList.map Piece.ofChar, value) :: members, rest) := by
  rw [takeMembers?, skipSpace_quoted]
  simp only [Piece.takeString?_flatMap, skipSpace_cons (show ':' ∉ _ by decide), h,
    skipSpace_cons (show ',' ∉ _ by decide), hmore]

theorem exists_cons_itemChars {j : Json} (h : ∀ n ∈ j.numbers, n.IsReadBack) (more : List Json) :
    ∃ c tail, Json.itemChars (j :: more) = c :: tail ∧ c ∉ [' ', '\n', '\t', '\r', ']'] := by
  obtain ⟨c, tail, hchars, hc⟩ := Json.exists_cons_chars h
  cases more with
  | nil => exact ⟨c, tail, hchars, hc⟩
  | cons next rest =>
    refine ⟨c, tail ++ ',' :: Json.itemChars (next :: rest), ?_, hc⟩
    rw [Json.itemChars, hchars, List.cons_append]

mutual

/-- **The text of a value is taken apart into the parts that it was put together from**, in front of
anything that ends a numeral.  Two units of fuel for each character suffice. -/
theorem takeValue?_chars : ∀ (j : Json) {fuel : Nat} {rest : List Char},
    (∀ n ∈ j.numbers, n.IsReadBack) → 2 * j.chars.length ≤ fuel → EndsNumeral rest →
      takeValue? fuel (j.chars ++ rest) = some (j.source, rest)
  | j, 0, rest, h, hfuel, _ => by
    obtain ⟨c, tail, hchars, -⟩ := Json.exists_cons_chars h
    rw [hchars, List.length_cons] at hfuel
    omega
  | .null, fuel + 1, rest, _, _, _ => rfl
  | .bool true, fuel + 1, rest, _, _, _ => rfl
  | .bool false, fuel + 1, rest, _, _, _ => rfl
  | .number n, fuel + 1, rest, h, _, hrest => by
    have hn : n.IsReadBack := h n (List.mem_singleton.2 rfl)
    exact takeValue?_numeral (Numeral.take?_append hrest hn.take?_chars)
  | .string s, fuel + 1, rest, _, _, _ => by
    have hchars : (Json.string s).chars ++ rest =
        '"' :: (s.toList.flatMap Json.escaped ++ '"' :: rest) := by
      simp [Json.chars, Json.quoted]
    rw [hchars, takeValue?_quote, Piece.takeString?_flatMap]
    rfl
  | .array [], fuel + 1, rest, _, _, _ => rfl
  | .array (j :: more), fuel + 1, rest, h, hfuel, _ => by
    have hchars : (Json.array (j :: more)).chars ++ rest =
        '[' :: (Json.itemChars (j :: more) ++ ']' :: rest) := by
      simp [Json.chars]
    simp only [Json.chars, List.length_append, List.length_cons, List.length_nil] at hfuel
    have hitems : takeItems? fuel (Json.itemChars (j :: more) ++ ']' :: rest) =
        some (Json.itemSources (j :: more), rest) :=
      takeItems?_itemChars j more h (by omega)
    obtain ⟨c, tail, hfirst, hc⟩ :=
      exists_cons_itemChars (fun n hn => h n (List.mem_append_left _ hn)) more
    have htext : Json.itemChars (j :: more) ++ ']' :: rest = c :: (tail ++ ']' :: rest) := by
      rw [hfirst, List.cons_append]
    rw [hchars]
    exact takeValue?_array htext hc hitems
  | .object [], fuel + 1, rest, _, _, _ => rfl
  | .object ((name, j) :: more), fuel + 1, rest, h, hfuel, _ => by
    have hchars : (Json.object ((name, j) :: more)).chars ++ rest =
        '\x7b' :: (Json.memberChars ((name, j) :: more) ++ '\x7d' :: rest) := by
      simp [Json.chars]
    simp only [Json.chars, List.length_append, List.length_cons, List.length_nil] at hfuel
    have hmembers : takeMembers? fuel (Json.memberChars ((name, j) :: more) ++ '\x7d' :: rest) =
        some (Json.memberSources ((name, j) :: more), rest) :=
      takeMembers?_memberChars name j more h (by omega)
    obtain ⟨tail, hfirst⟩ : ∃ tail,
        Json.memberChars ((name, j) :: more) ++ '\x7d' :: rest = '"' :: tail := by
      cases more <;> exact ⟨_, rfl⟩
    rw [hfirst] at hmembers
    rw [hchars, hfirst]
    exact takeValue?_object hmembers

theorem takeItems?_itemChars : ∀ (j : Json) (more : List Json) {fuel : Nat} {rest : List Char},
    (∀ n ∈ Json.itemNumbers (j :: more), n.IsReadBack) →
      2 * (Json.itemChars (j :: more)).length + 1 ≤ fuel →
        takeItems? fuel (Json.itemChars (j :: more) ++ ']' :: rest) =
          some (Json.itemSources (j :: more), rest)
  | j, [], fuel + 1, rest, h, hfuel => by
    rw [Json.itemNumbers, List.forall_mem_append] at h
    rw [Json.itemChars] at hfuel ⊢
    exact takeItems?_last (takeValue?_chars j h.1 (by omega) (endsNumeral_cons (by decide) rest))
  | j, next :: more, fuel + 1, rest, h, hfuel => by
    rw [Json.itemNumbers, List.forall_mem_append] at h
    rw [Json.itemChars, List.length_append, List.length_cons] at hfuel
    have hmore := @takeItems?_itemChars next more fuel rest h.2 (by omega)
    rw [Json.itemChars, List.append_assoc, List.cons_append]
    exact takeItems?_cons
      (takeValue?_chars j h.1 (by omega) (endsNumeral_cons (by decide) _)) hmore

theorem takeMembers?_memberChars : ∀ (name : String) (j : Json) (more : List (String × Json))
    {fuel : Nat} {rest : List Char},
    (∀ n ∈ Json.memberNumbers ((name, j) :: more), n.IsReadBack) →
      2 * (Json.memberChars ((name, j) :: more)).length + 1 ≤ fuel →
        takeMembers? fuel (Json.memberChars ((name, j) :: more) ++ '\x7d' :: rest) =
          some (Json.memberSources ((name, j) :: more), rest)
  | name, j, [], fuel + 1, rest, h, hfuel => by
    rw [Json.memberNumbers, List.forall_mem_append] at h
    rw [Json.memberChars, List.length_append, List.length_cons] at hfuel
    rw [Json.memberChars, List.append_assoc, List.cons_append]
    exact takeMembers?_last (takeValue?_chars j h.1 (by omega) (endsNumeral_cons (by decide) rest))
  | name, j, (other, next) :: more, fuel + 1, rest, h, hfuel => by
    rw [Json.memberNumbers, List.forall_mem_append] at h
    rw [Json.memberChars] at hfuel
    simp only [List.length_append, List.length_cons] at hfuel
    have hmore := @takeMembers?_memberChars other next more fuel rest h.2 (by omega)
    rw [Json.memberChars]
    simp only [List.append_assoc, List.cons_append]
    exact takeMembers?_cons
      (takeValue?_chars j h.1 (by omega) (endsNumeral_cons (by decide) _)) hmore

end

/-- **The text of a value is taken apart into the parts of the value.** -/
theorem ofText?_text {j : Json} (h : ∀ n ∈ j.numbers, n.IsReadBack) :
    ofText? j.text = some j.source := by
  have htake := @takeValue?_chars j (2 * j.chars.length + 2) [] h (by omega) endsNumeral_nil
  rw [List.append_nil] at htake
  rw [ofText?, Json.text, String.toList_ofList, htake]
  rfl

end Source
end RecordFilter
