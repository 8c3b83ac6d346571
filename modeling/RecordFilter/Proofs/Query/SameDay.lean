import RecordFilter.Proofs.Calendar.Written
import RecordFilter.Proofs.Query.CalendarPeriod
import RecordFilter.Proofs.Query.Influence

/-!
# One day, written in all ways

A row asks for a day with the day itself, with a local time on it, with an instant that lies on it,
or with the number of milliseconds up to such an instant.  The texts are tried in a fixed order, as
an instant, as a day and as a local time.  This file says that none of them is taken for another
kind, and that all of them ask for the same day.

* `Literal.WritesDayOf` — the values that write the local day of an instant.
* `Literal.WritesDayOf.day?_eq` — they are all read as this day.
* `Verb.compilesTo_of_writesDayOf` — all verbs for days compile them alike.
-/

set_option autoImplicit false

namespace RecordFilter

/-! ## The local day of an instant -/

namespace Instant

variable {t : Instant}

/-- The number of milliseconds from the beginning of 1970 to an instant. -/
def millis (t : Instant) : Int := t.seconds * 1000 + t.nanos / 1000000

theorem ofMillis?_millis (h : t.IsWholeMillis) : ofMillis? t.millis = some t := by
  obtain ⟨hsecond, hwhole⟩ := h
  have hseconds : t.millis / 1000 = t.seconds := by rw [millis]; omega
  have hnanos : (t.millis % 1000).toNat * 1000000 = t.nanos := by rw [millis]; omega
  rw [ofMillis?, hseconds, hnanos, ofSeconds?_eq t.nanos_lt t.inCalendar]

/-- The year in which an instant lies in universal time. -/
def year (t : Instant) : Int := (Civil.ofNumber (t.seconds / 86400)).year

theorem number_mem (hlow : 1 ≤ t.year) (hhigh : t.year ≤ 9998) :
    -4000000 < t.seconds / 86400 ∧ t.seconds / 86400 < 4000000 := by
  have hyear : (Day.mk _ t.inCalendar).civil.year = t.year := rfl
  exact Day.HasFourDigitYear.number_mem
    (⟨by omega, by omega⟩ : (Day.mk _ t.inCalendar).HasFourDigitYear)

theorem natAbs_millis_le (hlow : 1 ≤ t.year) (hhigh : t.year ≤ 9998) :
    t.millis.natAbs ≤ 1000000000000000 := by
  have hnumber := number_mem hlow hhigh
  have hnanos := t.nanos_lt
  rw [millis]
  omega

/-- An instant in the years 1 to 9998 lies on a day with a year of four digits, on every clock. -/
theorem exists_localDay (hlow : 1 ≤ t.year) (hhigh : t.year ≤ 9998) (offset : Offset) :
    ∃ d : Day, d.number = t.localDay offset ∧ d.HasFourDigitYear := by
  have hbounds := offset.bounded
  have hnumber := number_mem hlow hhigh
  have hday : InCalendar (t.localDay offset) := by
    rw [InCalendar, localDay]
    omega
  have hnear := @Division.years_index_near (t.seconds / 86400) (t.localDay offset)
    (by rw [localDay]; omega) (by rw [localDay]; omega)
  have hlocal : (Day.mk _ hday).civil.year = Division.years.index (t.localDay offset) := rfl
  have hown : t.year = Division.years.index (t.seconds / 86400) := rfl
  exact ⟨⟨_, hday⟩, rfl, by omega, by omega⟩

end Instant

/-! ## Values for the local day of an instant -/

/-- The values that write the local day of an instant on a clock with this offset: the milliseconds
up to the instant; the instant itself, on whatever clock; the day; and any local time of the day.
White space may be put around a text. -/
inductive Literal.WritesDayOf (t : Instant) (offset : Offset) : Literal → Prop
  | millis (ht : t.IsWholeMillis) (fits : FitsWord t.millis) :
      WritesDayOf t offset (.number (.integer t.millis fits))
  | moment {m : Moment} {text : List Char} {before after : String} (hm : m.instant = t)
      (htext : m.IsWritten text) (hbefore : Text.isBlank before = true)
      (hafter : Text.isBlank after = true) :
      WritesDayOf t offset (.text (before ++ String.ofList text ++ after))
  | day {d : Day} {before after : String} (hd : d.number = t.localDay offset)
      (hbefore : Text.isBlank before = true) (hafter : Text.isBlank after = true) :
      WritesDayOf t offset (.text (before ++ d.text ++ after))
  | localTime {d : Day} {time : List Char} {before after : String}
      (hd : d.number = t.localDay offset) (htime : Calendar.IsTimeOfDay time)
      (hbefore : Text.isBlank before = true) (hafter : Text.isBlank after = true) :
      WritesDayOf t offset
        (.text (before ++ String.ofList (d.civil.text ++ 'T' :: time) ++ after))

theorem Moment.today_of_localDay {t : Instant} {offset : Offset} {d : Day}
    (hd : d.number = t.localDay offset) : today ⟨t, offset⟩ = .ok d := by
  rw [today, day?_eq, Day.ofNumber?_of_number hd]

namespace Literal

variable {t : Instant} {offset : Offset} {value : Literal} {d : Day}

/-- **All values that write the local day of an instant are read as this day.** -/
theorem WritesDayOf.day?_eq (h : value.WritesDayOf t offset) (hlow : 1 ≤ t.year)
    (hhigh : t.year ≤ 9998) (hd : d.number = t.localDay offset) (hyear : d.HasFourDigitYear) :
    value.day? offset = .ok (some d) := by
  cases h with
  | millis ht fits =>
    have hmillis := Instant.natAbs_millis_le hlow hhigh
    have hsigned : (Json.Number.integer t.millis fits).signedWord? = some t.millis :=
      if_pos (by omega)
    rw [Literal.day?, hsigned, Option.bind_some, Instant.ofMillis?_millis ht]
    dsimp only
    rw [Moment.today_of_localDay hd]
    rfl
  | @moment m text before after hm htext hbefore hafter =>
    obtain rfl := hm
    -- the day on the clock of the text is another one, if it must be, but its year has four digits
    obtain ⟨own, hown, hownYear⟩ := m.instant.exists_localDay hlow hhigh m.offset
    rw [Literal.day?, Text.trim_surround hbefore hafter, htext.trim_eq hown hownYear,
      Day.ofAnyText?, htext.ofText?_eq hown hownYear]
    dsimp only
    rw [Moment.today_of_localDay hd]
    rfl
  | @day d' before after hd' hbefore hafter =>
    obtain rfl := Day.eq_of_number (hd'.trans hd.symm)
    have htrim : Text.trim (before ++ d'.text ++ after) = Text.trim d'.text :=
      Text.trim_surround hbefore hafter _
    rw [Literal.day?, htrim]
    exact day?_text hyear offset
  | @localTime d' time before after hd' htime hbefore hafter =>
    obtain rfl := Day.eq_of_number (hd'.trans hd.symm)
    obtain ⟨hmoment, hday, hlocal⟩ := Day.ofLocalTime?_text_append hyear htime
    rw [Literal.day?, Text.trim_surround hbefore hafter, Day.trim_text_append hyear htime,
      Day.ofAnyText?, hmoment, hday, hlocal]

end Literal

/-! ## Rows -/

namespace Verb

/-- The time between two days looks at either end through the window of its day. -/
theorem query?_dateBetween_congr {settings : Settings} {value other : Literal}
    (h : value.dayWindow? settings.now.offset = other.dayWindow? settings.now.offset)
    (field path : String) (far : Option Literal) :
    dateBetween.query? settings field path (.range (some value) far) =
        dateBetween.query? settings field path (.range (some other) far) ∧
      dateBetween.query? settings field path (.range far (some value)) =
        dateBetween.query? settings field path (.range far (some other)) := by
  cases far with
  | none => exact ⟨rfl, rfl⟩
  | some far => simp only [query?, Argument.ends?, Query.ofDays?, h, and_self]

/-- **All ways of writing a day compile alike.**  Take an instant in the years 1 to 9998 of universal
time, and any clock.  The instant lies on a day of that clock.  Whichever value writes this day, be
it the milliseconds up to the instant, the instant itself on any clock, the day, or a local time on
it, the four verbs for one day compile it to the queries for the window of the day, and leave no
note; and at either end of the time between two days, whatever is at the other end, it is compiled
like any other value that writes the day. -/
theorem compilesTo_of_writesDayOf (settings : Settings) (base field : String) {t : Instant}
    (hlow : 1 ≤ t.year) (hhigh : t.year ≤ 9998) :
    FitsWord t.millis ∧
    ∃ (day : Day) (window : Window), day.number = t.localDay settings.now.offset ∧
      window.Spans settings.now.offset ⟨day, day⟩ ∧
      ∀ value : Literal, value.WritesDayOf t settings.now.offset →
        (∀ place, (ofPlace place).CompilesTo settings base field (.single value)
          (.atField base field fun path => .ofPlace path window place)) ∧
        dateIsNot.CompilesTo settings base field (.single value)
          (.atField base field fun path =>
            .outside path (.date window.start) (.date window.finish)) ∧
        ∀ other : Literal, other.WritesDayOf t settings.now.offset →
          ∀ (id : String) (far : Option Literal),
            (Condition.mk id field (.known dateBetween) (.range (some value) far)).query settings
                base =
              (Condition.mk id field (.known dateBetween) (.range (some other) far)).query settings
                base ∧
            (Condition.mk id field (.known dateBetween) (.range far (some value))).query settings
                base =
              (Condition.mk id field (.known dateBetween) (.range far (some other))).query settings
                base := by
  have hmillis := Instant.natAbs_millis_le hlow hhigh
  obtain ⟨day, hday, hyear⟩ := t.exists_localDay hlow hhigh settings.now.offset
  obtain ⟨window, hwindow, hspans⟩ := Literal.dayWindow?_text hyear settings.now.offset
  -- all that the verbs see of a value is the window of the day it is read as
  have hread : ∀ value : Literal, value.WritesDayOf t settings.now.offset →
      value.dayWindow? settings.now.offset = .ok (some window) := by
    intro value hvalue
    rw [← hwindow, Literal.dayWindow?, Literal.dayWindow?, hvalue.day?_eq hlow hhigh hday hyear,
      Literal.day?_text hyear]
  refine ⟨by rw [FitsWord]; omega, day, window, hday, hspans, fun value hvalue =>
    ⟨compilesTo_ofPlace (hread value hvalue), compilesTo_dateIsNot (hread value hvalue), ?_⟩⟩
  intro other hother id far
  have hsame := query?_dateBetween_congr ((hread value hvalue).trans (hread other hother).symm)
    (Text.trim field)
  constructor
  all_goals
    refine Condition.query_congr (fun verb hverb path => ?_) base
    obtain rfl := Operator.known.inj hverb
  · exact (hsame path far).1
  · exact (hsame path far).2

/-- On a clock that is five and a half hours ahead, a quarter of a second after ten in the evening
of 12 June in universal time lies on 13 June, however it is written. -/
theorem compilesTo_of_writesDayOf_after_midnight :
    ∃ (settings : Settings) (t : Instant) (q : Query), 1 ≤ t.year ∧ t.year ≤ 9998 ∧
      settings.now.offset.seconds = 19800 ∧ t.IsWholeMillis ∧
      (∀ value ∈ [.number (.integer 1718229600250 (by decide)),
          .text "\t2024-06-12 12:00:00.25-10:00", .text "2024-06-13", .text "2024-06-13T23:59 "],
        dateIs.CompilesTo settings "" "at" (.single value) q) ∧
      ∀ (id : String) (far : Option Literal),
        (Condition.mk id "at" (.known dateBetween)
          (.range (some (.text "2024-06-13")) far)).query settings "" =
        (Condition.mk id "at" (.known dateBetween)
          (.range (some (.text "2024-06-13T23:59 ")) far)).query settings "" := by
  let settings : Settings := ⟨⟨⟨0, 0, by decide, by decide⟩, ⟨19800, by decide⟩⟩, .default, none⟩
  let t : Instant := ⟨1718229600, 250000000, by decide, by decide⟩
  have hmillis : t.IsWholeMillis := ⟨by decide, by decide⟩
  have hday : (Day.mk 19887 (by decide)).number = t.localDay settings.now.offset := by decide
  have hnumber : ∀ n (fits : FitsWord n), n = t.millis →
      Literal.WritesDayOf t settings.now.offset (.number (.integer n fits)) := by
    rintro _ fits rfl
    exact .millis hmillis fits
  have htext : ∀ s s' : String, s = s' → Literal.WritesDayOf t settings.now.offset (.text s) →
      Literal.WritesDayOf t settings.now.offset (.text s') := by
    rintro s _ rfl h
    exact h
  have hzone := @Offset.IsWritten.behind ⟨-36000, by decide⟩ '-' 10 0 (by decide) (by decide)
    (by decide) (by decide)
  have hwritten := @Moment.IsWritten.intro ⟨t, ⟨-36000, by decide⟩⟩ ' ' [2, 5] _ (by decide)
    (by decide) (by decide) (by decide +kernel) hzone
  have hinteger := hnumber 1718229600250 (by decide) (by decide +kernel)
  have hmoment := htext _ "\t2024-06-12 12:00:00.25-10:00" (by decide +kernel)
    (@Literal.WritesDayOf.moment t _ _ _ "\t" "" rfl hwritten (by decide) (by decide))
  have hdate := htext _ "2024-06-13" (by decide +kernel)
    (@Literal.WritesDayOf.day t _ _ "" "" hday (by decide) (by decide))
  have htime := htext _ "2024-06-13T23:59 " (by decide +kernel)
    (@Literal.WritesDayOf.localTime t _ _ _ "" " " hday
      (@Calendar.IsTimeOfDay.minutes 23 59 (by decide) (by decide)) (by decide) (by decide))
  obtain ⟨-, day, window, -, -, hvalue⟩ :=
    @compilesTo_of_writesDayOf settings "" "at" t (by decide +kernel) (by decide +kernel)
  refine ⟨settings, t, .atField "" "at" fun path => .ofPlace path window .eq, by decide +kernel,
    by decide +kernel, rfl, hmillis, ?_, ?_⟩
  · intro value hmem
    simp only [List.mem_cons, List.not_mem_nil, or_false] at hmem
    rcases hmem with rfl | rfl | rfl | rfl
    · exact (hvalue _ hinteger).1 .eq
    · exact (hvalue _ hmoment).1 .eq
    · exact (hvalue _ hdate).1 .eq
    · exact (hvalue _ htime).1 .eq
  · intro id far
    exact ((hvalue _ hdate).2.2 _ htime id far).1

end Verb
end RecordFilter
