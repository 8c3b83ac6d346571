import RecordFilter.Calendar.Reader

/-!
# Instants read from a text are well inside the calendar

The calendar has some 260000 years on either side of the present one.  A text in the format of
RFC 3339 writes its year in four digits, so the instant it names is far from both ends, and every
clock has a local date for it.

* `Digits.number_lt` — a number of a few digits is small.
* `Civil.number_mem` — the day of a date in the years 0 to 9999.
* `Moment.inCalendar_of_ofText?` — the local date, on any clock, of an instant read from a text.
-/

set_option autoImplicit false

namespace RecordFilter

/-! ## Digits -/

namespace Digits

theorem value?_lt {c : Char} {d : Nat} (h : value? c = some d) : d < 10 := by
  rw [value?] at h
  split at h
  · rename_i hc
    have hle : c.toNat ≤ 57 := hc.2
    obtain rfl := Option.some.inj h
    omega
  · exact nomatch h

theorem lt_ten_of_mem_take {text : List Char} {d : Nat} (h : d ∈ (take text).1) : d < 10 := by
  induction text with
  | nil => exact nomatch h
  | cons c rest ih =>
    rw [take] at h
    cases hc : value? c with
    | none =>
      rw [hc] at h
      exact nomatch h
    | some first =>
      rw [hc] at h
      rcases List.mem_cons.1 h with rfl | hmem
      · exact value?_lt hc
      · exact ih hmem

theorem foldl_lt {digits : List Nat} (h : ∀ d ∈ digits, d < 10) (n : Nat) :
    digits.foldl (fun n d => 10 * n + d) n < (n + 1) * tenTo digits.length := by
  induction digits generalizing n with
  | nil => exact (Nat.mul_one (n + 1)).symm ▸ Nat.lt_succ_self n
  | cons d rest ih =>
    have hd : d < 10 := h d List.mem_cons_self
    have hrest := ih (fun x hx => h x (List.mem_cons_of_mem d hx)) (10 * n + d)
    have hstep : (10 * n + d + 1) * tenTo rest.length ≤ (n + 1) * 10 * tenTo rest.length :=
      Nat.mul_le_mul_right _ (by omega)
    have hten : tenTo (rest.length + 1) = 10 * tenTo rest.length := Nat.mul_comm ..
    rw [List.foldl_cons, List.length_cons, hten, ← Nat.mul_assoc]
    exact Nat.lt_of_lt_of_le hrest hstep

theorem number_lt {digits : List Nat} (h : ∀ d ∈ digits, d < 10) :
    number digits < tenTo digits.length := by
  have hfold := foldl_lt h 0
  rwa [Nat.zero_add, Nat.one_mul] at hfold

end Digits

theorem Calendar.fixed?_lt {count n : Nat} {text rest : List Char}
    (h : fixed? count text = some (n, rest)) : n < tenTo count := by
  rw [fixed?] at h
  split at h
  · rename_i digits htake
    split at h
    · rename_i hlength
      have hdigits : ∀ d ∈ digits, d < 10 := fun d hd =>
        Digits.lt_ten_of_mem_take (by rw [htake]; exact hd)
      obtain ⟨rfl, -⟩ := Prod.mk.inj (Option.some.inj h)
      exact hlength ▸ Digits.number_lt hdigits
    · exact nomatch h
  · exact nomatch h

/-! ## Days of four-digit years -/

namespace Civil

theorem daysBeforeMonth_le : ∀ leap : Bool, ∀ month ≤ 12, daysBeforeMonth leap month ≤ 335 := by
  decide

theorem monthLength_le : ∀ leap : Bool, ∀ month ≤ 12,
    (monthLengths leap).getD (month - 1) 0 ≤ 31 := by
  decide

/-- The day of a date in the years 0 to 9999 is less than four million days from 1970. -/
theorem number_mem {c : Civil} (hdate : c.IsDate) (hlow : 0 ≤ c.year) (hhigh : c.year ≤ 9999) :
    -4000000 < c.number ∧ c.number < 4000000 := by
  obtain ⟨hmonth, hmonth', hday, hday'⟩ := hdate
  have hbefore := daysBeforeMonth_le (isLeap c.year) c.month hmonth'
  have hlength := monthLength_le (isLeap c.year) c.month hmonth'
  rw [number, yearStart]
  omega

end Civil

theorem Day.number_of_ofCivil? {c : Civil} {d : Day} (h : Day.ofCivil? c = some d) :
    c.IsDate ∧ d.number = c.number := by
  rw [ofCivil?] at h
  split at h
  · rename_i hdate
    rw [ofNumber?] at h
    split at h
    · obtain rfl := Option.some.inj h
      exact ⟨hdate, rfl⟩
    · exact nomatch h
  · exact nomatch h

/-! ## Texts -/

namespace Calendar

theorem fixedDate?_number_mem {text rest : List Char} {d : Day}
    (h : fixedDate? text = some (d, rest)) : -4000000 < d.number ∧ d.number < 4000000 := by
  rw [fixedDate?] at h
  obtain ⟨⟨year, text₁⟩, hyear, h⟩ := Option.bind_eq_some_iff.1 h
  obtain ⟨text₂, -, h⟩ := Option.bind_eq_some_iff.1 h
  obtain ⟨⟨month, text₃⟩, -, h⟩ := Option.bind_eq_some_iff.1 h
  obtain ⟨text₄, -, h⟩ := Option.bind_eq_some_iff.1 h
  obtain ⟨⟨day, text₅⟩, -, h⟩ := Option.bind_eq_some_iff.1 h
  obtain ⟨date, hdate, h⟩ := Option.bind_eq_some_iff.1 h
  obtain ⟨rfl, -⟩ := Prod.mk.inj (Option.some.inj h)
  obtain ⟨hcivil, hnumber⟩ := Day.number_of_ofCivil? hdate
  have hlt : year < 10000 := fixed?_lt hyear
  have hle : (year : Int) ≤ 9999 := by omega
  rw [hnumber]
  exact Civil.number_mem hcivil (Int.natCast_nonneg year) hle

theorem timeOfDay?_le {hour minute second nanos seconds left : Nat}
    (h : timeOfDay? hour minute second nanos = some (seconds, left)) : seconds ≤ 86399 := by
  rw [timeOfDay?] at h
  split at h
  · exact nomatch h
  · split at h
    · obtain ⟨rfl, -⟩ := Prod.mk.inj (Option.some.inj h)
      omega
    · obtain ⟨rfl, -⟩ := Prod.mk.inj (Option.some.inj h)
      omega

theorem fixedTime?_le {text rest : List Char} {seconds nanos : Nat}
    (h : fixedTime? text = some ((seconds, nanos), rest)) : seconds ≤ 86399 := by
  rw [fixedTime?] at h
  obtain ⟨⟨hour, text₁⟩, -, h⟩ := Option.bind_eq_some_iff.1 h
  obtain ⟨text₂, -, h⟩ := Option.bind_eq_some_iff.1 h
  obtain ⟨⟨minute, text₃⟩, -, h⟩ := Option.bind_eq_some_iff.1 h
  obtain ⟨text₄, -, h⟩ := Option.bind_eq_some_iff.1 h
  obtain ⟨⟨second, text₅⟩, -, h⟩ := Option.bind_eq_some_iff.1 h
  obtain ⟨⟨nanos', text₆⟩, -, h⟩ := Option.bind_eq_some_iff.1 h
  obtain ⟨time, htime, h⟩ := Option.bind_eq_some_iff.1 h
  obtain ⟨rfl, -⟩ := Prod.mk.inj (Option.some.inj h)
  exact timeOfDay?_le htime

end Calendar

/-- An instant that is found from seconds and nanoseconds has these. -/
theorem Instant.of_ofSeconds? {seconds : Int} {nanos : Nat} {t : Instant}
    (h : ofSeconds? seconds nanos = some t) : t.seconds = seconds ∧ t.nanos = nanos := by
  rw [ofSeconds?] at h
  split at h
  · obtain rfl := Option.some.inj h
    exact ⟨rfl, rfl⟩
  · cases h

namespace Moment

open Calendar

/-- The seconds of an instant read from a text come from a day, a time of day and an offset. -/
theorem seconds_of_ofText? {text : String} {m : Moment} (h : ofText? text = some m) :
    ∃ (d : Day) (seconds : Nat), -4000000 < d.number ∧ d.number < 4000000 ∧ seconds ≤ 86399 ∧
      m.instant.seconds = d.number * 86400 + seconds - m.offset.seconds := by
  rw [ofText?] at h
  obtain ⟨⟨d, text₁⟩, hdate, h⟩ := Option.bind_eq_some_iff.1 h
  obtain ⟨text₂, -, h⟩ := Option.bind_eq_some_iff.1 h
  obtain ⟨⟨⟨seconds, nanos⟩, text₃⟩, htime, h⟩ := Option.bind_eq_some_iff.1 h
  obtain ⟨offset, -, h⟩ := Option.bind_eq_some_iff.1 h
  obtain ⟨t, ht, h⟩ := Option.bind_eq_some_iff.1 h
  obtain rfl := Option.some.inj h
  refine ⟨d, seconds, (fixedDate?_number_mem hdate).1, (fixedDate?_number_mem hdate).2,
    fixedTime?_le htime, ?_⟩
  exact (Instant.of_ofSeconds? ht).1

/-- **Every clock has a local date for an instant that is read from a text.** -/
theorem inCalendar_of_ofText? {text : String} {m : Moment} (h : ofText? text = some m)
    (offset : Offset) : InCalendar ((m.instant.seconds + offset.seconds) / 86400) := by
  obtain ⟨d, seconds, hlow, hhigh, hle, hseconds⟩ := seconds_of_ofText? h
  have hown := m.offset.bounded
  have hother := offset.bounded
  rw [InCalendar]
  omega

end Moment
end RecordFilter
