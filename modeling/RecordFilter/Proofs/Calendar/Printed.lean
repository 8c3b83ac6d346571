import RecordFilter.Proofs.Calendar.LocalDay
import RecordFilter.Proofs.Calendar.Text

/-!
# Different instants have different texts

The text of an instant has parts of a fixed width, from the last one, the milliseconds, up to the
month.  Only the year in front of them may be longer, and then it has a sign.  So the parts can be
told from one another, and each of them tells its number.  What the text leaves out is less than a
millisecond; and a leap second is written as the second after the one that it counts to, which may
be the text of another instant.

* `Calendar.append_padded_inj` — a part of a fixed width, which comes last, tells its number.
* `Civil.yearText_inj`, `Civil.text_inj` — different years and dates have different texts.
* `clockReading_inj` — what a clock shows tells the second.
* `Instant.text_inj` — different whole milliseconds have different texts.
-/

set_option autoImplicit false

namespace RecordFilter

open Calendar Digits

/-! ## Parts of a fixed width -/

/-- **A last part of a fixed width is told from the parts before it**, and tells its number. -/
theorem Calendar.append_padded_inj {width m n : Nat} {front front' : List Char} {c : Char}
    (hwidth : 0 < width) (hm : m < tenTo width) (hn : n < tenTo width)
    (h : front ++ c :: padded width m = front' ++ c :: padded width n) :
    front = front' ∧ m = n := by
  have hlength : (c :: padded width m).length = (c :: padded width n).length := by
    rw [List.length_cons, List.length_cons, length_padded hwidth hm, length_padded hwidth hn]
  obtain ⟨hfront, hlast⟩ := List.append_inj' h hlength
  exact ⟨hfront, padded_inj.1 (List.cons.inj hlast).2⟩

/-! ## Dates -/

namespace Civil

variable {year year' : Int}

/-- A year of four digits has no sign. -/
theorem yearText_eq_of_mem (h : 0 ≤ year ∧ year ≤ 9999) :
    ∃ c text, yearText year = c :: text ∧ c ≠ '-' ∧ c ≠ '+' := by
  have hsmall : year.toNat < tenTo 4 := by
    have hten : tenTo 4 = 10000 := rfl
    omega
  obtain ⟨c, text, htext, -, hsign⟩ := exists_padded_eq_cons (by decide) hsmall
  exact ⟨c, text, by rw [yearText, if_pos h, htext], hsign⟩

/-- A year with a sign is none of four digits. -/
theorem yearText_ne_of_mem (h : 0 ≤ year ∧ year ≤ 9999) (h' : ¬ (0 ≤ year' ∧ year' ≤ 9999)) :
    yearText year ≠ yearText year' := by
  obtain ⟨c, text, htext, hminus, hplus⟩ := yearText_eq_of_mem h
  rw [htext, yearText, if_neg h']
  intro heq
  obtain ⟨hsign, -⟩ := List.cons.inj heq
  split at hsign
  · exact hminus hsign
  · exact hplus hsign

/-- **Different years have different texts.** -/
theorem yearText_inj : yearText year = yearText year' ↔ year = year' := by
  refine ⟨fun h => ?_, congrArg _⟩
  by_cases hmem : 0 ≤ year ∧ year ≤ 9999
  · by_cases hmem' : 0 ≤ year' ∧ year' ≤ 9999
    · rw [yearText, yearText, if_pos hmem, if_pos hmem', padded_inj] at h
      omega
    · exact absurd h (yearText_ne_of_mem hmem hmem')
  · by_cases hmem' : 0 ≤ year' ∧ year' ≤ 9999
    · exact absurd h.symm (yearText_ne_of_mem hmem' hmem)
    · rw [yearText, yearText, if_neg hmem, if_neg hmem', List.cons.injEq, padded_inj] at h
      obtain ⟨hsign, hsize⟩ := h
      have hsame : year < 0 ↔ year' < 0 := by
        split at hsign
        · split at hsign
          · exact iff_of_true ‹_› ‹_›
          · exact absurd hsign (by decide)
        · split at hsign
          · exact absurd hsign (by decide)
          · exact iff_of_false ‹_› ‹_›
      omega

/-- **Different dates have different texts.** -/
theorem text_inj {c c' : Civil} (hc : c.IsDate) (hc' : c'.IsDate) : c.text = c'.text ↔ c = c' := by
  have hsmall : ∀ c : Civil, c.IsDate → c.month < 100 ∧ c.day < 100 := by
    rintro c ⟨-, hmonth, -, hday⟩
    have hlength := monthLength_le (isLeap c.year) c.month hmonth
    omega
  obtain ⟨hmonth, hday⟩ := hsmall c hc
  obtain ⟨hmonth', hday'⟩ := hsmall c' hc'
  refine ⟨fun h => ?_, congrArg _⟩
  obtain ⟨hfront, hsameDay⟩ := append_padded_inj (by decide) hday hday' h
  obtain ⟨hyear, hsameMonth⟩ := append_padded_inj (by decide) hmonth hmonth' hfront
  cases c
  cases c'
  rw [Civil.mk.injEq]
  exact ⟨yearText_inj.1 hyear, hsameMonth, hsameDay⟩

end Civil

/-! ## Clocks and instants -/

/-- **What a clock shows tells the second**, leap seconds apart. -/
theorem clockReading_inj {seconds seconds' : Int} :
    clockReading seconds false = clockReading seconds' false ↔ seconds = seconds' := by
  refine ⟨fun h => ?_, congrArg fun s => clockReading s false⟩
  have hclock : ∀ s : Int, clockReading s false =
      (Civil.ofNumber (s / 86400)).text ++ 'T' :: padded 2 ((s % 86400).toNat / 3600) ++
        ':' :: padded 2 ((s % 86400).toNat / 60 % 60) ++
        ':' :: padded 2 ((s % 86400).toNat % 60) := by
    simp [clockReading, clockText]
  have hhour : ∀ s : Int, (s % 86400).toNat / 3600 < 100 := by omega
  have hsixty : ∀ n : Nat, n % 60 < 100 := by omega
  rw [hclock, hclock] at h
  obtain ⟨hfront, hsecond⟩ := append_padded_inj (by decide) (hsixty _) (hsixty _) h
  obtain ⟨hfront, hminute⟩ := append_padded_inj (by decide) (hsixty _) (hsixty _) hfront
  obtain ⟨hdate, hhour⟩ := append_padded_inj (by decide) (hhour _) (hhour _) hfront
  have hnumber := congrArg Civil.number
    ((Civil.text_inj (Civil.isDate_ofNumber _) (Civil.isDate_ofNumber _)).1 hdate)
  rw [Civil.number_ofNumber, Civil.number_ofNumber] at hnumber
  omega

/-- **Different whole milliseconds have different texts.** -/
theorem Instant.text_inj {t t' : Instant} (ht : t.IsWholeMillis) (ht' : t'.IsWholeMillis) :
    t.text = t'.text ↔ t = t' := by
  have htext : ∀ t : Instant, t.nanos < 1000000000 →
      t.text.toList =
        clockReading t.seconds false ++ '.' :: padded 3 (t.nanos / 1000000) ++ ['Z'] := by
    intro t hnanos
    rw [text, String.toList_ofList, Nat.mod_eq_of_lt hnanos,
      decide_eq_false (Nat.not_le_of_lt hnanos)]
  have hmillis : ∀ t : Instant, t.nanos < 1000000000 → t.nanos / 1000000 < tenTo 3 :=
    fun t hnanos => Nat.div_lt_of_lt_mul hnanos
  obtain ⟨hnanos, hwhole⟩ := ht
  obtain ⟨hnanos', hwhole'⟩ := ht'
  refine ⟨fun h => ?_, congrArg _⟩
  have hlist := congrArg String.toList h
  rw [htext t hnanos, htext t' hnanos'] at hlist
  obtain ⟨hclock, hsame⟩ := append_padded_inj (by decide) (hmillis t hnanos) (hmillis t' hnanos')
    (List.append_cancel_right hlist)
  have hequal : t.nanos = t'.nanos := by omega
  cases t
  cases t'
  rw [Instant.mk.injEq]
  exact ⟨clockReading_inj.1 hclock, hequal⟩

end RecordFilter
