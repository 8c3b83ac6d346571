import RecordFilter.Proofs.Calendar.Range
import RecordFilter.Proofs.Period.Partition

/-!
# Instants and the local days they lie on

On a clock with an offset every instant lies on a local day, and a window of whole local days begins
and ends with one of its days.  So an instant lies before, in or after such a window as its own day
does.  The one thing to look after is the end of the window, which is a millisecond before the next
day: an instant in that millisecond lies after the window and on its last day.

* `Instant.localDay` — the local day on which an instant lies, as a number, since the calendar need
  not have it.
* `Instant.IsWholeMillis` — instants that are not inside of a millisecond, and in no leap second.
* `Window.place` — whether an instant lies before, in or after a window.
* `Window.Spans.place_eq_compare` — for a single day this is how the two days compare.
-/

set_option autoImplicit false

namespace RecordFilter

/-! ## The local day of an instant -/

namespace Instant

/-- The number of the local day on which an instant lies, on a clock with this offset. -/
def localDay (t : Instant) (offset : Offset) : Int := (t.seconds + offset.seconds) / 86400

/-- Whether an instant is a whole number of milliseconds after the beginning of its second, and not
in a leap second. -/
def IsWholeMillis (t : Instant) : Prop := t.nanos < 1000000000 ∧ t.nanos % 1000000 = 0

theorem compare_eq_lt_iff {t u : Instant} :
    t.compare u = .lt ↔ t.seconds < u.seconds ∨ t.seconds = u.seconds ∧ t.nanos < u.nanos := by
  rw [compare, Ordering.then_eq_lt, Int.compare_eq_lt, Int.compare_eq_eq, Nat.compare_eq_lt]

theorem compare_eq_gt_iff {t u : Instant} :
    t.compare u = .gt ↔ u.seconds < t.seconds ∨ t.seconds = u.seconds ∧ u.nanos < t.nanos := by
  rw [compare, Ordering.then_eq_gt, Int.compare_eq_gt, Int.compare_eq_eq, Nat.compare_eq_gt]

/-- An instant lies before the beginning of a local day when its own day does. -/
theorem compare_dayStart_iff {t start : Instant} {offset : Offset} {number : Int}
    (hseconds : start.seconds + offset.seconds = number * 86400) (hnanos : start.nanos = 0) :
    t.compare start = .lt ↔ t.localDay offset < number := by
  rw [compare_eq_lt_iff, hnanos, localDay]
  omega

end Instant

/-- The local date of a moment is its local day, if the calendar has it. -/
theorem Moment.day?_eq (m : Moment) : m.day? = Day.ofNumber? (m.instant.localDay m.offset) :=
  rfl

/-! ## Windows of whole days -/

namespace Window

/-- Whether an instant lies before, in or after a window. -/
def place (window : Window) (t : Instant) : Ordering :=
  if t.compare window.start = .lt then .lt
  else if t.compare window.finish = .gt then .gt
  else .eq

theorem place_eq_lt_iff {window : Window} {t : Instant} :
    window.place t = .lt ↔ t.compare window.start = .lt := by
  rw [place]
  split
  · rename_i h
    exact iff_of_true rfl h
  · rename_i h
    split
    · exact iff_of_false nofun h
    · exact iff_of_false nofun h

theorem place_eq_eq_iff {window : Window} {t : Instant} :
    window.place t = .eq ↔ ¬ t.compare window.start = .lt ∧ ¬ t.compare window.finish = .gt := by
  rw [place]
  split
  · rename_i h
    exact iff_of_false nofun fun hin => hin.1 h
  · rename_i h
    split
    · rename_i h'
      exact iff_of_false nofun fun hin => hin.2 h'
    · rename_i h'
      exact iff_of_true rfl ⟨h, h'⟩

/-- Only an instant after the end of a window lies after it, if the window does not end before it
begins. -/
theorem place_eq_gt_iff {window : Window} {t : Instant}
    (horder : window.start.compare window.finish = .lt) :
    window.place t = .gt ↔ t.compare window.finish = .gt := by
  rw [place]
  split
  · rename_i h
    refine iff_of_false nofun ?_
    rw [Instant.compare_eq_lt_iff] at h horder
    rw [Instant.compare_eq_gt_iff]
    omega
  · split
    · rename_i h
      exact iff_of_true rfl h
    · rename_i h
      exact iff_of_false nofun h

variable {window : Window} {offset : Offset} {stretch : Stretch} {t : Instant}

/-- **An instant lies before a window of whole days when its own day does.** -/
theorem Spans.compare_start_iff (h : window.Spans offset stretch) :
    t.compare window.start = .lt ↔ t.localDay offset < stretch.first.number :=
  Instant.compare_dayStart_iff h.start_seconds h.start_nanos

/-- An instant that lies after a window of whole days lies after its last day, or in the last
millisecond of it. -/
theorem Spans.compare_finish_iff (h : window.Spans offset stretch) :
    t.compare window.finish = .gt ↔ stretch.last.number < t.localDay offset ∨
      t.seconds = window.finish.seconds ∧ 999000000 < t.nanos := by
  have hseconds := h.finish_seconds
  rw [Instant.compare_eq_gt_iff, h.finish_nanos, Instant.localDay]
  omega

/-- **An instant that is not inside of a millisecond lies after a window of whole days when its own
day does.** -/
theorem Spans.compare_finish_iff_of_isWholeMillis (h : window.Spans offset stretch)
    (ht : t.IsWholeMillis) :
    t.compare window.finish = .gt ↔ stretch.last.number < t.localDay offset := by
  obtain ⟨hnanos, hmillis⟩ := ht
  have hlast : ¬ (t.seconds = window.finish.seconds ∧ 999000000 < t.nanos) := by omega
  rw [h.compare_finish_iff, or_iff_left hlast]

/-- **An instant lies before, on or after a day as its own day does.** -/
theorem Spans.place_eq_compare {day : Day} (h : window.Spans offset ⟨day, day⟩)
    (ht : t.IsWholeMillis) : window.place t = Ord.compare (t.localDay offset) day.number := by
  have hbefore : t.compare window.start = .lt ↔ t.localDay offset < day.number :=
    h.compare_start_iff
  have hafter : t.compare window.finish = .gt ↔ day.number < t.localDay offset :=
    h.compare_finish_iff_of_isWholeMillis ht
  rw [place]
  rcases Int.lt_trichotomy (t.localDay offset) day.number with hlt | heq | hgt
  · rw [if_pos (hbefore.2 hlt), Int.compare_eq_lt.2 hlt]
  · rw [if_neg (mt hbefore.1 (by omega)), if_neg (mt hafter.1 (by omega)),
      Int.compare_eq_eq.2 heq]
  · rw [if_neg (mt hbefore.1 (by omega)), if_pos (hafter.2 hgt), Int.compare_eq_gt.2 hgt]

end Window

/-- A window that begins with the first millisecond of one day and ends with the last of another one
spans the days between them. -/
theorem Window.spans_of_start?_of_finish? {first last : Day} {offset : Offset}
    {start finish : Instant} (hstart : first.start? offset = some start)
    (hfinish : last.finish? offset = some finish) :
    (Window.mk start finish).Spans offset ⟨first, last⟩ := by
  obtain ⟨hseconds, hnanos⟩ := Instant.of_ofSeconds? hstart
  obtain ⟨hseconds', hnanos'⟩ := Instant.of_ofSeconds? hfinish
  refine ⟨?_, hnanos, ?_, hnanos'⟩
  · rw [hseconds, Int.sub_add_cancel]
  · rw [hseconds', Int.sub_add_cancel]

end RecordFilter
