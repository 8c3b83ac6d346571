import RecordFilter.Calendar.Printer
import RecordFilter.Proofs.Calendar.Range
import RecordFilter.Proofs.Number.Digits
import RecordFilter.Proofs.Period.Partition
import RecordFilter.Proofs.Text.Space

/-!
# Days written and read again

A day is written as `YYYY-MM-DD`.  This file says that a day with a year of four digits is read from
this text again, in fixed widths and in free ones, and that the text names no instant.

* `Calendar.fixed?_padded_append`, `Calendar.upTo?_padded_append` — numbers written with a fixed
  count of digits are read back, whatever follows them.
* `Day.HasFourDigitYear` — the days whose year is written in four digits without a sign.
* `Calendar.fixedDate?_text_append`, `Calendar.freeDate?_text_append` — the date of such a day is
  read back, whatever follows it.
* `Day.ofText?_text`, `Moment.ofText?_text` — the text is read as the day, and as no instant.
-/

set_option autoImplicit false

namespace RecordFilter

/-! ## Numbers of a fixed width -/

namespace Calendar

open Digits

variable {width n : Nat}

theorem length_padded (hwidth : 0 < width) (h : n < tenTo width) :
    (padded width n).length = width := by
  rw [padded_eq hwidth h, List.length_map, length_lastDigits]

/-- A written number is read as its digits, with nothing left over. -/
theorem take_padded (hwidth : 0 < width) (h : n < tenTo width) :
    take (padded width n) = (lastDigits width n, []) := by
  have hdigits : ∀ d ∈ lastDigits width n, d < 10 := fun d hd => lt_ten_of_mem_lastDigits hd
  have hread := take_map_char_append hdigits []
  rwa [List.append_nil, take, List.append_nil, ← padded_eq hwidth h] at hread

/-- **A number of this width is read back in this width**, whatever follows it. -/
theorem fixed?_padded_append (hwidth : 0 < width) (h : n < tenTo width) (rest : List Char) :
    fixed? width (padded width n ++ rest) = some (n, rest) := by
  have hlength := length_padded hwidth h
  rw [fixed?, List.take_left' hlength, List.drop_left' hlength, take_padded hwidth h]
  dsimp only
  rw [if_pos (length_lastDigits width n), number_lastDigits h]

/-- **A number of the greatest width is read back in a free width**, whatever follows it. -/
theorem upTo?_padded_append (hwidth : 0 < width) (h : n < tenTo width) (rest : List Char) :
    upTo? width (padded width n ++ rest) = some (n, rest) := by
  have hlength := length_padded hwidth h
  rw [upTo?, List.take_left' hlength, take_padded hwidth h]
  dsimp only
  have hdigits := length_lastDigits width n
  split
  · rename_i hnil
    rw [hnil] at hdigits
    exact absurd hdigits hwidth.ne
  · rw [number_lastDigits h, hdigits, List.drop_left' hlength]

/-- A written number begins with a digit: with no white space and no sign. -/
theorem exists_padded_eq_cons (hwidth : 0 < width) (h : n < tenTo width) :
    ∃ c text, padded width n = c :: text ∧ Text.isSpace c = false ∧ c ≠ '-' ∧ c ≠ '+' := by
  have hchar : ∀ d < 10, Text.isSpace (char d) = false ∧ char d ≠ '-' ∧ char d ≠ '+' := by decide
  rw [padded_eq hwidth h]
  cases hdigits : lastDigits width n with
  | nil =>
    have hlength := length_lastDigits width n
    rw [hdigits] at hlength
    exact absurd hlength hwidth.ne
  | cons d digits =>
    have hd : d ∈ lastDigits width n := by rw [hdigits]; exact List.mem_cons_self
    exact ⟨char d, digits.map char, rfl, hchar d (lt_ten_of_mem_lastDigits hd)⟩

theorem beginsPlainly_padded (hwidth : 0 < width) (h : n < tenTo width) :
    Text.BeginsPlainly (padded width n) := by
  obtain ⟨c, text, hpadded, hspace, -⟩ := exists_padded_eq_cons hwidth h
  exact ⟨c, by rw [hpadded]; rfl, hspace⟩

theorem endsPlainly_padded (hwidth : 0 < width) (h : n < tenTo width) :
    Text.EndsPlainly (padded width n) := by
  have hchar : ∀ d < 10, Text.isSpace (char d) = false := by decide
  obtain ⟨c, text, hpadded, -⟩ := exists_padded_eq_cons hwidth h
  have hne : padded width n ≠ [] := by simp [hpadded]
  have hlast := List.getLast_mem hne
  refine ⟨(padded width n).getLast hne, List.getLast?_eq_getLast_of_ne_nil hne, ?_⟩
  generalize (padded width n).getLast hne = c at hlast ⊢
  rw [padded_eq hwidth h] at hlast
  obtain ⟨d, hd, rfl⟩ := List.mem_map.1 hlast
  exact hchar d (lt_ten_of_mem_lastDigits hd)

theorem field?_padded_append (h : n < 100) (rest : List Char) :
    field? (padded 2 n ++ rest) = some (n, rest) := by
  obtain ⟨c, text, hpadded, hspace, -⟩ := @exists_padded_eq_cons 2 n (by decide) h
  have hstart : (padded 2 n ++ rest).dropWhile Text.isSpace = padded 2 n ++ rest := by
    rw [hpadded, List.cons_append, List.dropWhile_cons_of_neg (by simp [hspace])]
  rw [field?, hstart, upTo?_padded_append (by decide) h]

theorem year?_padded_append (h : n < 10000) (rest : List Char) :
    year? (padded 4 n ++ rest) = some ((n : Int), rest) := by
  obtain ⟨c, text, hpadded, hspace, hminus, hplus⟩ :=
    @exists_padded_eq_cons 4 n (by decide) h
  have hstart : (padded 4 n ++ rest).dropWhile Text.isSpace = padded 4 n ++ rest := by
    rw [hpadded, List.cons_append, List.dropWhile_cons_of_neg (by simp [hspace])]
  have hread := @upTo?_padded_append 4 n (by decide) h rest
  rw [year?, hstart]
  rw [hpadded, List.cons_append] at hread ⊢
  split
  · rename_i heq
    exact absurd (List.cons.inj heq).1 hminus
  · rename_i heq
    exact absurd (List.cons.inj heq).1 hplus
  · rw [hread]
    rfl

end Calendar

/-! ## Days as texts -/

namespace Day

/-- A day as `YYYY-MM-DD`. -/
def text (d : Day) : String := String.ofList d.civil.text

/-- Whether the year of a day is written in four digits, without a sign. -/
def HasFourDigitYear (d : Day) : Prop := 0 ≤ d.civil.year ∧ d.civil.year ≤ 9999

instance (d : Day) : Decidable d.HasFourDigitYear :=
  inferInstanceAs (Decidable (0 ≤ d.civil.year ∧ d.civil.year ≤ 9999))

theorem ofCivil?_civil (d : Day) : ofCivil? d.civil = some d :=
  ofCivil?_of_number (Civil.isDate_ofNumber d.number) (Civil.number_ofNumber d.number).symm

theorem dayOfMonth_le (d : Day) : d.civil.day ≤ 31 := by
  obtain ⟨-, hmonth, -, hday⟩ := Civil.isDate_ofNumber d.number
  exact hday.trans (Civil.monthLength_le _ _ hmonth)

/-- The three numbers of which the text of a day is made. -/
theorem exists_text_eq {d : Day} (h : d.HasFourDigitYear) :
    ∃ year month day : Nat, year < 10000 ∧ month < 100 ∧ day < 100 ∧
      ofCivil? ⟨year, month, day⟩ = some d ∧
      ∀ rest, d.civil.text ++ rest = Digits.padded 4 year ++ '-' ::
        (Digits.padded 2 month ++ '-' :: (Digits.padded 2 day ++ rest)) := by
  obtain ⟨hlow, hhigh⟩ := h
  have hmonth := d.month_mem
  have hday := d.dayOfMonth_le
  have hyear : (d.civil.year.toNat : Int) = d.civil.year := Int.toNat_of_nonneg hlow
  refine ⟨d.civil.year.toNat, d.civil.month, d.civil.day, by omega, by omega, by omega, ?_, ?_⟩
  · rw [hyear]
    exact d.ofCivil?_civil
  · intro rest
    simp [Civil.text, Civil.yearText, hlow, hhigh]

theorem HasFourDigitYear.beginsPlainly_text {d : Day} (h : d.HasFourDigitYear) :
    Text.BeginsPlainly d.civil.text := by
  obtain ⟨year, month, day, hyear, hmonth, hday, -, htext⟩ := exists_text_eq h
  rw [← List.append_nil d.civil.text, htext]
  exact (Calendar.beginsPlainly_padded (by decide) hyear).append _

theorem HasFourDigitYear.endsPlainly_text {d : Day} (h : d.HasFourDigitYear) :
    Text.EndsPlainly d.civil.text := by
  obtain ⟨year, month, day, hyear, hmonth, hday, -, htext⟩ := exists_text_eq h
  rw [← List.append_nil d.civil.text, htext, List.append_nil]
  have hlast := @Calendar.endsPlainly_padded 2 day (by decide) hday
  exact (((hlast.cons '-').append _).cons '-').append _

end Day

namespace Calendar

variable {d : Day}

/-- **A day is read back in fixed widths**, whatever follows it. -/
theorem fixedDate?_text_append (h : d.HasFourDigitYear) (rest : List Char) :
    fixedDate? (d.civil.text ++ rest) = some (d, rest) := by
  obtain ⟨year, month, day, hyear, hmonth, hday, hcivil, htext⟩ := Day.exists_text_eq h
  have hyear' := @fixed?_padded_append 4 year (by decide) hyear
  have hmonth' := @fixed?_padded_append 2 month (by decide) hmonth
  have hday' := @fixed?_padded_append 2 day (by decide) hday
  simp only [fixedDate?, htext, hyear', hmonth', hday', hcivil, after?, if_true,
    Option.bind_eq_bind, Option.bind_some, Option.pure_def]

/-- **A day is read back in free widths**, whatever follows it. -/
theorem freeDate?_text_append (h : d.HasFourDigitYear) (rest : List Char) :
    freeDate? (d.civil.text ++ rest) = some (d, rest) := by
  obtain ⟨year, month, day, hyear, hmonth, hday, hcivil, htext⟩ := Day.exists_text_eq h
  simp only [freeDate?, htext, year?_padded_append hyear, field?_padded_append hmonth,
    field?_padded_append hday, hcivil, after?, if_true, Option.bind_eq_bind, Option.bind_some,
    Option.pure_def]

end Calendar

theorem Moment.ofText?_text {d : Day} (h : d.HasFourDigitYear) : Moment.ofText? d.text = none := by
  have hdate := Calendar.fixedDate?_text_append h []
  rw [List.append_nil] at hdate
  simp only [Moment.ofText?, Day.text, String.toList_ofList, hdate, Calendar.betweenDateAndTime?,
    Option.bind_eq_bind, Option.bind_some, Option.bind_none]

theorem Day.ofText?_text {d : Day} (h : d.HasFourDigitYear) : Day.ofText? d.text = some d := by
  have hdate := Calendar.freeDate?_text_append h []
  rw [List.append_nil] at hdate
  rw [Day.ofText?, Day.text, String.toList_ofList, hdate]

end RecordFilter
