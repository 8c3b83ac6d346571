import RecordFilter.Json.Numeral
import RecordFilter.Json.Printer
import RecordFilter.Proofs.Number.Digits

/-!
# Written numbers

A number is written in front of a comma, a bracket, a brace or the end of the text.  None of these
can belong to a numeral, so that the numeral ends where the number was written to end.

* `EndsNumeral` — what can stand behind a numeral without being read as a part of it.
* `Numeral.take?_append` — a numeral is read in front of such a rest as it is read alone.
* `Json.Number.IsReadBack` — whether the text of a number is read as the number.
* `Json.Number.isReadBack_integer` — that of an integer is.
-/

set_option autoImplicit false

namespace RecordFilter

/-- Whether a text begins with nothing that a numeral in front of it could go on with. -/
def EndsNumeral (rest : List Char) : Prop :=
  ∀ c ∈ rest.head?, Digits.value? c = none ∧ c ≠ '.' ∧ c ≠ 'e' ∧ c ≠ 'E'

theorem endsNumeral_nil : EndsNumeral [] := fun _ hc => by cases hc

theorem endsNumeral_cons {c : Char} (h : c ∈ [',', ']', '\x7d']) (rest : List Char) :
    EndsNumeral (c :: rest) := by
  rintro _ ⟨⟩
  simp only [List.mem_cons, List.not_mem_nil, or_false] at h
  rcases h with rfl | rfl | rfl <;> decide

/-! ## Digits -/

namespace Digits

/-- A run of digits ends where it ends alone. -/
theorem take_append {text rest : List Char} (h : ∀ c ∈ rest.head?, value? c = none) :
    take (text ++ rest) = ((take text).1, (take text).2 ++ rest) := by
  induction text with
  | nil =>
    cases rest with
    | nil => rfl
    | cons c rest =>
      have hc : value? c = none := h c rfl
      simp [take, hc]
  | cons c text ih =>
    rw [List.cons_append, take, take]
    cases hc : value? c with
    | none => simp
    | some d => simp [ih]

end Digits

/-! ## Numerals -/

namespace Numeral

variable {text after rest : List Char}

theorem takeWhole?_append (hrest : EndsNumeral rest) {whole : List Nat}
    (h : takeWhole? text = some (whole, after)) :
    takeWhole? (text ++ rest) = some (whole, after ++ rest) := by
  cases text with
  | nil => cases h
  | cons c text =>
    rw [takeWhole?] at h ⊢
    rw [Digits.take_append fun c hc => (hrest c hc).1]
    rcases htake : Digits.take (c :: text) with ⟨_ | ⟨_ | d, digits⟩, left⟩
    all_goals
      rw [htake] at h
      simp only [Option.some.injEq, Prod.mk.injEq, reduceCtorEq] at h
    all_goals
      obtain ⟨rfl, rfl⟩ := h
      rfl

theorem takeFraction?_append (hrest : EndsNumeral rest) {fraction : Option (List Nat)}
    (h : takeFraction? text = some (fraction, after)) :
    takeFraction? (text ++ rest) = some (fraction, after ++ rest) := by
  by_cases hpoint : ∃ digits, text = '.' :: digits
  · obtain ⟨digits, rfl⟩ := hpoint
    rw [List.cons_append, takeFraction?, Digits.take_append fun c hc => (hrest c hc).1]
    rw [takeFraction?] at h
    rcases htake : Digits.take digits with ⟨_ | ⟨d, more⟩, left⟩
    all_goals
      rw [htake] at h
      simp only [Option.some.injEq, Prod.mk.injEq, reduceCtorEq] at h
    obtain ⟨rfl, rfl⟩ := h
    rfl
  · rw [takeFraction?] at h
    · obtain ⟨rfl, rfl⟩ := Prod.mk.inj (Option.some.inj h)
      rw [takeFraction?]
      rintro digits hdigits
      cases text with
      | nil =>
        obtain rfl : rest = '.' :: digits := hdigits
        exact (hrest '.' rfl).2.1 rfl
      | cons c text =>
        obtain ⟨rfl, -⟩ := List.cons.inj hdigits
        exact hpoint ⟨text, rfl⟩
    · exact fun digits hdigits => hpoint ⟨digits, hdigits⟩

theorem takeExponentDigits?_append (hrest : EndsNumeral rest) {negative : Bool}
    {exponent : Option Int} (h : takeExponentDigits? negative text = some (exponent, after)) :
    takeExponentDigits? negative (text ++ rest) = some (exponent, after ++ rest) := by
  rw [takeExponentDigits?] at h ⊢
  rw [Digits.take_append fun c hc => (hrest c hc).1]
  rcases htake : Digits.take text with ⟨_ | ⟨d, digits⟩, left⟩
  all_goals
    rw [htake] at h
    simp only [Option.some.injEq, Prod.mk.injEq, reduceCtorEq] at h
  obtain ⟨rfl, rfl⟩ := h
  rfl

theorem takeExponent?_append (hrest : EndsNumeral rest) {exponent : Option Int}
    (h : takeExponent? text = some (exponent, after)) :
    takeExponent? (text ++ rest) = some (exponent, after ++ rest) := by
  rcases text with _ | ⟨c, text⟩
  · obtain ⟨rfl, rfl⟩ := Prod.mk.inj (Option.some.inj h)
    rcases rest with _ | ⟨c, rest⟩
    · rfl
    · obtain ⟨-, -, hlower, hupper⟩ := hrest c rfl
      simp [takeExponent?, hlower, hupper]
  · unfold takeExponent? at h ⊢
    rw [List.cons_append]
    dsimp only at h ⊢
    by_cases hmark : c = 'e' ∨ c = 'E'
    · rw [if_pos hmark] at h ⊢
      split at h
      case h_1 => exact takeExponentDigits?_append hrest h
      case h_2 => exact takeExponentDigits?_append hrest h
      case h_3 hplus hminus =>
        rcases text with _ | ⟨d, digits⟩
        · cases h
        · rw [← takeExponentDigits?_append hrest h]
          split
          case h_1 heq =>
            exact absurd (congrArg (· :: digits) (List.cons.inj heq).1) (hplus digits)
          case h_2 heq =>
            exact absurd (congrArg (· :: digits) (List.cons.inj heq).1) (hminus digits)
          case h_3 => rfl
    · rw [if_neg hmark] at h ⊢
      obtain ⟨rfl, rfl⟩ := Prod.mk.inj (Option.some.inj h)
      rfl

theorem takeUnsigned?_append (hrest : EndsNumeral rest) {negative : Bool} {numeral : Numeral}
    (h : takeUnsigned? negative text = some (numeral, after)) :
    takeUnsigned? negative (text ++ rest) = some (numeral, after ++ rest) := by
  rw [takeUnsigned?] at h ⊢
  split at h
  case h_1 => cases h
  case h_2 whole afterWhole hwhole =>
    rw [takeWhole?_append hrest hwhole]
    dsimp only
    split at h
    case h_1 => cases h
    case h_2 fraction afterFraction hfraction =>
      rw [takeFraction?_append hrest hfraction]
      dsimp only
      split at h
      case h_1 => cases h
      case h_2 exponent left hexponent =>
        rw [takeExponent?_append hrest hexponent]
        obtain ⟨rfl, rfl⟩ := Prod.mk.inj (Option.some.inj h)
        rfl

/-- What does not begin with a minus sign is read without one. -/
theorem take?_cons_of_ne {c : Char} (hminus : c ≠ '-') :
    take? (c :: text) = takeUnsigned? false (c :: text) := by
  rw [take?]
  rintro digits ⟨⟩
  exact hminus rfl

/-- **A numeral is read in front of what ends it as it is read alone.** -/
theorem take?_append (hrest : EndsNumeral rest) {numeral : Numeral}
    (h : take? text = some (numeral, after)) :
    take? (text ++ rest) = some (numeral, after ++ rest) := by
  rcases text with _ | ⟨c, text⟩
  · cases h
  · by_cases hminus : c = '-'
    · subst hminus
      exact takeUnsigned?_append hrest h
    · rw [take?_cons_of_ne hminus] at h
      rw [List.cons_append, take?_cons_of_ne hminus]
      exact takeUnsigned?_append hrest h

theorem take?_of_takeUnsigned? {numeral : Numeral}
    (h : takeUnsigned? false text = some (numeral, after)) :
    take? text = some (numeral, after) := by
  rw [take?]
  · exact h
  · rintro digits rfl
    cases h

/-- A numeral begins with a minus sign or with a digit. -/
theorem exists_cons_of_take? {numeral : Numeral} (h : take? text = some (numeral, after)) :
    ∃ c tail, text = c :: tail ∧ (c = '-' ∨ ∃ d, Digits.value? c = some d) := by
  rcases text with _ | ⟨c, text⟩
  · cases h
  · refine ⟨c, text, rfl, ?_⟩
    by_cases hminus : c = '-'
    · exact Or.inl hminus
    · refine Or.inr (Option.ne_none_iff_exists'.1 fun hdigit => ?_)
      have hwhole : takeWhole? (c :: text) = none := by
        rw [takeWhole?, Digits.take, hdigit]
      rw [take?_cons_of_ne hminus, takeUnsigned?, hwhole] at h
      cases h

/-- What a numeral begins with begins no other value, is no white space and closes nothing. -/
theorem not_mem_of_begins {c : Char} (h : c = '-' ∨ ∃ d, Digits.value? c = some d) :
    c ∉ [' ', '\n', '\t', '\r', ']', 'n', 't', 'f', '"', '[', '\x7b'] := by
  intro hmem
  rcases h with rfl | ⟨d, hd⟩
  · exact absurd hmem (by decide)
  · have hother : ([' ', '\n', '\t', '\r', ']', 'n', 't', 'f', '"', '[', '\x7b'].all fun x =>
        (Digits.value? x).isNone) = true := by decide
    have hc := List.all_eq_true.1 hother c hmem
    rw [hd] at hc
    cases hc

end Numeral

/-! ## What numerals are read as -/

namespace Numeral

theorem le_foldl_digits (n : Nat) (digits : List Nat) :
    n ≤ digits.foldl (fun n d => 10 * n + d) n := by
  induction digits generalizing n with
  | nil => exact Nat.le_refl n
  | cons d rest ih =>
    have hstep : n ≤ 10 * n + d := by omega
    exact Nat.le_trans hstep (ih (10 * n + d))

/-- Digits are appended as long as a word holds the number that they name. -/
theorem appendDigits_eq {n : Nat} {digits : List Nat}
    (h : digits.foldl (fun n d => 10 * n + d) n ≤ 18446744073709551615) :
    appendDigits n digits = (digits.foldl (fun n d => 10 * n + d) n, []) := by
  induction digits generalizing n with
  | nil => rfl
  | cons d rest ih =>
    have hstep : 10 * n + d ≤ 18446744073709551615 :=
      Nat.le_trans (le_foldl_digits _ rest) h
    rw [appendDigits, if_pos hstep, ih h]
    rfl

/-- The text of a number without a sign is a numeral of its digits. -/
theorem takeUnsigned?_decimal (negative : Bool) (n : Nat) :
    ∃ digits, Digits.number digits = n ∧
      takeUnsigned? negative (Digits.decimal n) = some (⟨negative, digits, none, none⟩, []) := by
  obtain ⟨d, rest, htext, hdigits, hnumber, hzero⟩ := Digits.exists_decimal_eq n
  have htake : Digits.take ((d :: rest).map Digits.char) = (d :: rest, []) := by
    have happend := Digits.take_map_char_append hdigits []
    rwa [List.append_nil, Digits.take, List.append_nil] at happend
  have hwhole : takeWhole? ((d :: rest).map Digits.char) = some (d :: rest, []) := by
    rw [takeWhole?, htake]
    by_cases hd : d = 0
    · obtain rfl := hzero hd
      subst hd
      rfl
    · simp [hd]
  refine ⟨d :: rest, hnumber, ?_⟩
  rw [htext, takeUnsigned?, hwhole]
  rfl

end Numeral

/-! ## The numeral of a number -/

namespace Json.Number

/-- The number that a whole text is read as. -/
def ofChars? (text : List Char) : Option Number :=
  match Numeral.take? text with
  | some (numeral, []) => numeral.number?
  | _ => none

/-- Whether the text of a number is read as the number. -/
def IsReadBack (n : Number) : Prop := ofChars? n.chars = some n

instance (n : Number) : Decidable n.IsReadBack :=
  inferInstanceAs (Decidable (ofChars? n.chars = some n))

theorem isReadBack_iff {n : Number} :
    n.IsReadBack ↔
      ∃ numeral, Numeral.take? n.chars = some (numeral, []) ∧ numeral.number? = some n := by
  rw [IsReadBack, ofChars?]
  constructor
  · intro h
    split at h
    case h_1 numeral htake => exact ⟨numeral, htake, h⟩
    case h_2 => cases h
  · rintro ⟨numeral, htake, hnumber⟩
    rw [htake]
    exact hnumber

/-- **Integers are read back.** -/
theorem isReadBack_integer {n : Int} (fits : FitsWord n) : (integer n fits).IsReadBack := by
  obtain ⟨hlow, hhigh⟩ := id fits
  obtain ⟨digits, hnumber, htake⟩ := Numeral.takeUnsigned?_decimal (decide (n < 0)) n.natAbs
  have happend : Numeral.appendDigits 0 digits = (n.natAbs, []) := by
    have hfold : digits.foldl (fun n d => 10 * n + d) 0 = n.natAbs := hnumber
    rw [Numeral.appendDigits_eq (by omega), hfold]
  refine isReadBack_iff.2 ⟨⟨decide (n < 0), digits, none, none⟩, ?_, ?_⟩
  · show Numeral.take? (Digits.signed n) = _
    rw [Digits.signed]
    by_cases hneg : n < 0
    · rw [if_pos hneg, ← htake, decide_eq_true hneg]
      rfl
    · rw [if_neg hneg]
      rw [decide_eq_false hneg] at htake ⊢
      exact Numeral.take?_of_takeUnsigned? htake
  · have hzero : ¬ (decide (n < 0) = true ∧ n.natAbs = 0) := by
      rw [decide_eq_true_eq]
      omega
    have hvalue : (if decide (n < 0) = true then -(n.natAbs : Int) else n.natAbs) = n := by
      by_cases hneg : n < 0
      · rw [if_pos (decide_eq_true hneg)]
        omega
      · rw [if_neg fun h => hneg (of_decide_eq_true h)]
        omega
    rw [Numeral.number?, happend]
    dsimp only
    rw [Numeral.plain?, if_neg hzero, hvalue, ofInt?, dif_pos fits]

end Json.Number
end RecordFilter
