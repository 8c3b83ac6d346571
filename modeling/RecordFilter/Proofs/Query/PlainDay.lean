import RecordFilter.Proofs.Calendar.Text
import RecordFilter.Proofs.Query.Day

/-!
# Records that store a plain day

A record may store a day instead of an instant.  A filter reads the text of a day as that day on the
local clock, but the text in a record is read as the beginning of the day in universal time.  This
file says how the two readings meet: on a clock that shows universal time, or is ahead of it, the
stored day is placed as the day it is, and on a clock that is behind, as the day before.

* `Literal.day?_text`, `Json.instant?_text` — the two readings.
* `Instant.localDay_of_dayStart` — the local day of the beginning of a day in universal time.
* `Condition.accepts_plainDay` — how the verbs for days place a stored day, and when that is its own
  place.
-/

set_option autoImplicit false

namespace RecordFilter

/-! ## Two readings of one text -/

namespace Day

variable {d : Day}

theorem trim_text (h : d.HasFourDigitYear) : Text.trim d.text = d.text :=
  Text.trim_ofList h.beginsPlainly_text h.endsPlainly_text

/-- A day with a year of four digits is far from both ends of the calendar. -/
theorem HasFourDigitYear.number_mem (h : d.HasFourDigitYear) :
    -4000000 < d.number ∧ d.number < 4000000 := by
  have hnumber := Civil.number_mem (Civil.isDate_ofNumber d.number) h.1 h.2
  rwa [Civil.number_ofNumber] at hnumber

theorem HasFourDigitYear.isSome_start? (h : d.HasFourDigitYear) (offset : Offset) :
    (d.start? offset).isSome ∧ (d.finish? offset).isSome := by
  have hnumber := h.number_mem
  obtain ⟨start, hstart, -⟩ := @exists_start? d (by rw [InCalendar]; omega) offset
  obtain ⟨finish, hfinish, -⟩ := @exists_finish? d (by rw [InCalendar]; omega) offset
  rw [hstart, hfinish]
  exact ⟨rfl, rfl⟩

end Day

/-- The text of a day is a value that is read as this day, on every clock. -/
theorem Literal.day?_text {d : Day} (h : d.HasFourDigitYear) (offset : Offset) :
    (Literal.text d.text).day? offset = .ok (some d) := by
  rw [day?, Day.trim_text h, Day.ofAnyText?, Moment.ofText?_text h, Day.ofText?_text h]

/-- A stored text of a day is read as the beginning of the day in universal time. -/
theorem Json.instant?_text {d : Day} (h : d.HasFourDigitYear) :
    ∃ t, (Json.string d.text).instant? = some t ∧ t.seconds = d.number * 86400 ∧ t.nanos = 0 := by
  have hstart : (Json.string d.text).instant? = d.start? .zero := by
    rw [instant?, Instant.ofText?, Moment.ofText?_text h, Day.ofText?_text h]
    rfl
  obtain ⟨t, ht⟩ := Option.isSome_iff_exists.1 (h.isSome_start? .zero).1
  obtain ⟨hseconds, hnanos⟩ := Instant.of_ofSeconds? ht
  have hzero : Offset.zero.seconds = 0 := rfl
  rw [hzero, Int.sub_zero] at hseconds
  exact ⟨t, hstart.trans ht, hseconds, hnanos⟩

/-! ## The place of a stored day -/

/-- A day begins in universal time on the same day of a clock that is not behind, and on the day
before on a clock that is. -/
theorem Instant.localDay_of_dayStart {t : Instant} {d : Day} (h : t.seconds = d.number * 86400)
    (offset : Offset) :
    t.localDay offset = if offset.seconds < 0 then d.number - 1 else d.number := by
  have hbounds := offset.bounded
  rw [localDay, h]
  split
  · omega
  · omega

/-- One day makes a difference to the place of a day at that day itself and at the one after it. -/
theorem compare_pred_eq_iff {m n : Int} :
    compare (m - 1) n = compare m n ↔ m ≠ n ∧ m ≠ n + 1 := by
  rcases Int.lt_trichotomy m n with hlt | heq | hgt
  · rw [Int.compare_eq_lt.2 hlt, Int.compare_eq_lt]
    omega
  · rw [Int.compare_eq_eq.2 heq, Int.compare_eq_eq]
    omega
  · rw [Int.compare_eq_gt.2 hgt, Int.compare_eq_gt]
    omega

namespace Condition

/-- **A stored day is placed as itself on clocks that are not behind universal time, and as the day
before on those that are.**  So the three verbs place it where it lies if the clock is not behind;
and if it is, unless it is the day of the row or the day after it. -/
theorem accepts_plainDay (settings : Settings) (base : String) {c : Condition}
    (hfield : c.isBlank = false) {asked stored : Day} (hasked : asked.HasFourDigitYear)
    (hstored : stored.HasFourDigitYear) :
    (Literal.text asked.text).day? settings.now.offset = .ok (some asked) ∧
    ∀ value : Literal, c.argument = .single value →
      value.day? settings.now.offset = .ok (some asked) →
      ∃ query : Ordering → Query,
        (∀ place, ((c.asking (.ofPlace place)).query settings base).map Noted.value =
          .ok (query place)) ∧
        ∀ record : Json,
          record.at? (Path.under base (Text.trim c.field)) = some (.string stored.text) →
          (∀ place, (query place).accepts record = true ↔
            compare (if settings.now.offset.seconds < 0 then stored.number - 1 else stored.number)
              asked.number = place) ∧
          ((∀ place, (query place).accepts record = true ↔
              compare stored.number asked.number = place) ↔
            0 ≤ settings.now.offset.seconds ∨
              stored.number ≠ asked.number ∧ stored.number ≠ asked.number + 1) := by
  refine ⟨Literal.day?_text hasked settings.now.offset, fun value hargument hday => ?_⟩
  obtain ⟨hstart, hfinish⟩ := hasked.isSome_start? settings.now.offset
  obtain ⟨window, hwindow, hspans⟩ := Literal.exists_dayWindow? hday hstart hfinish
  have horder : window.start.compare window.finish = .lt := hspans.compare_eq_lt (Int.le_refl _)
  refine ⟨.ofPlace (Path.under base (Text.trim c.field)) window,
    value_query_ofPlace hfield hargument hwindow, fun record hat => ?_⟩
  obtain ⟨t, ht, hseconds, hnanos⟩ := Json.instant?_text hstored
  have hmillis : t.IsWholeMillis := by
    rw [Instant.IsWholeMillis, hnanos]
    decide
  have hplace : ∀ place, (Query.ofPlace (Path.under base (Text.trim c.field)) window
      place).accepts record = true ↔
        compare (if settings.now.offset.seconds < 0 then stored.number - 1 else stored.number)
          asked.number = place := by
    intro place
    rw [Query.accepts_ofPlace_iff horder hat ht, hspans.place_eq_compare hmillis,
      Instant.localDay_of_dayStart hseconds]
  refine ⟨hplace, ?_⟩
  simp only [hplace]
  have hsame : ∀ a b : Ordering, (∀ place, a = place ↔ b = place) ↔ a = b :=
    fun a b => ⟨fun h => ((h b).2 rfl), fun h place => by rw [h]⟩
  rw [hsame]
  by_cases hbehind : settings.now.offset.seconds < 0
  · rw [if_pos hbehind, compare_pred_eq_iff, or_iff_right (by omega)]
  · rw [if_neg hbehind]
    exact iff_of_true rfl (Or.inl (by omega))

/-- On a clock that is five and a half hours ahead, a record that stores 1 June lies on 1 June. -/
theorem accepts_plainDay_ahead :
    ∃ (settings : Settings) (day : Day), settings.now.offset.seconds = 19800 ∧
      day.HasFourDigitYear ∧ day.text = "2024-06-01" ∧
      ∃ query : Ordering → Query,
        (∀ place, ((asking ⟨"c", "at", .blank, .single (.text day.text)⟩
          (.ofPlace place)).query settings "").map Noted.value = .ok (query place)) ∧
        (query .eq).accepts (.object [("at", .string day.text)]) = true := by
  let settings : Settings := ⟨⟨⟨0, 0, by decide, by decide⟩, ⟨19800, by decide⟩⟩, .default, none⟩
  obtain ⟨day, hday, htext⟩ :
      ∃ day : Day, day.HasFourDigitYear ∧ day.text = "2024-06-01" :=
    ⟨⟨19875, by decide⟩, by decide, by decide +kernel⟩
  have hfield : isBlank ⟨"c", "at", .blank, .single (.text day.text)⟩ = false :=
    (by decide : Text.isBlank "at" = false)
  obtain ⟨hread, hrow⟩ := accepts_plainDay settings "" hfield hday hday
  obtain ⟨query, hquery, hrecord⟩ := hrow (.text day.text) rfl hread
  have hat : ∀ text, (Json.object [("at", .string text)]).at? (Path.under "" (Text.trim "at")) =
      some (.string text) := fun _ => rfl
  obtain ⟨hplace, -⟩ := hrecord (.object [("at", .string day.text)]) (hat day.text)
  have hahead : ¬ settings.now.offset.seconds < 0 := by decide
  refine ⟨settings, day, rfl, hday, htext, query, hquery, (hplace .eq).2 ?_⟩
  rw [if_neg hahead, Int.compare_eq_eq]

/-- On a clock that is five hours behind, a record that stores 1 June does not lie on 1 June, but
before it. -/
theorem not_dateIs_plainDay_behind :
    ∃ (settings : Settings) (onDay before : Query), settings.now.offset.seconds = -18000 ∧
      ((asking ⟨"c", "at", .blank, .single (.text "2024-06-01")⟩ .dateIs).query settings "").map
        Noted.value = .ok onDay ∧
      ((asking ⟨"c", "at", .blank, .single (.text "2024-06-01")⟩ .dateBefore).query settings "").map
        Noted.value = .ok before ∧
      onDay.accepts (.object [("at", .string "2024-06-01")]) = false ∧
      before.accepts (.object [("at", .string "2024-06-01")]) = true := by
  let settings : Settings := ⟨⟨⟨0, 0, by decide, by decide⟩, ⟨-18000, by decide⟩⟩, .default, none⟩
  let window : Window := ⟨⟨1717218000, 0, by decide, by decide⟩,
    ⟨1717304399, 999000000, by decide, by decide⟩⟩
  have hwindow : (Literal.text "2024-06-01").dayWindow? settings.now.offset =
      .ok (some window) := by decide +kernel
  have hquery := @value_query_ofPlace settings ""
    ⟨"c", "at", .blank, .single (.text "2024-06-01")⟩ window rfl _ rfl hwindow
  exact ⟨settings, _, _, rfl, hquery .eq, hquery .lt, rfl, rfl⟩

end Condition
end RecordFilter
