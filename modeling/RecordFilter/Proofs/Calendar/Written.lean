import RecordFilter.Proofs.Calendar.LocalDay
import RecordFilter.Proofs.Calendar.Text
import RecordFilter.Proofs.Text.Space

/-!
# Instants and times of day, written in all ways

RFC 3339 leaves some freedom to whoever writes an instant: the offset of the clock, the letter
between the date and the time, how many digits follow the second, and how the offset is spelled.  A
local time has less of it, and no offset.  This file says which texts these are, and that each of
them is read as what it was written for and as nothing else.

* `Moment.IsWritten` — the texts of a moment; `Moment.isWritten_text` has one of them.
* `Moment.IsWritten.ofText?_eq` — they are read as the moment.
* `Calendar.IsTimeOfDay` — the texts of the times of a day.
* `Day.ofLocalTime?_text_append` — a day and a time of day are read as the day, and neither as an
  instant nor as a day alone.
-/

set_option autoImplicit false

namespace RecordFilter

/-! ## Fractions of a second -/

namespace Digits

theorem number_append (digits more : List Nat) :
    number (digits ++ more) = number digits * tenTo more.length + number more := by
  induction more using List.reverseRecOn with
  | nil => simp [tenTo, number]
  | append_singleton more d ih =>
    have hten : tenTo (more.length + 1) = tenTo more.length * 10 := rfl
    rw [← List.append_assoc, number_append_singleton, number_append_singleton, ih,
      List.length_append, List.length_singleton, hten]
    ring

/-- A run of digits ends where a character comes that is no digit. -/
theorem take_of_head? {text : List Char} (h : ∀ c ∈ text.head?, value? c = none) :
    take text = ([], text) := by
  cases text with
  | nil => rfl
  | cons c rest => rw [take, h c rfl]

end Digits

namespace Calendar

open Digits

/-- The fraction of a second with these digits, which is not written if there are none. -/
def fractionText : List Nat → List Char
  | [] => []
  | digits => '.' :: digits.map char

theorem fractionText_of_ne_nil {digits : List Nat} (h : digits ≠ []) :
    fractionText digits = '.' :: digits.map char := by
  obtain ⟨d, rest, rfl⟩ := List.exists_cons_of_ne_nil h
  rfl

theorem endsPlainly_append_fractionText {front : List Char} (hfront : Text.EndsPlainly front)
    {digits : List Nat} (h : ∀ d ∈ digits, d < 10) :
    Text.EndsPlainly (front ++ fractionText digits) := by
  have hchar : ∀ d < 10, Text.isSpace (char d) = false := by decide
  rcases List.eq_nil_or_concat digits with rfl | ⟨digits, d, rfl⟩
  · rwa [fractionText, List.append_nil]
  · rw [fractionText_of_ne_nil (by simp), List.map_concat, List.concat_eq_append]
    have hlast : Text.EndsPlainly [char d] := ⟨char d, rfl, hchar d (h d (by simp))⟩
    exact ((hlast.append _).cons '.').append _

/-- A fraction is read back in front of what cannot belong to it. -/
theorem fraction?_fractionText_append {digits : List Nat} (h : ∀ d ∈ digits, d < 10)
    {rest : List Char} (hrest : ∀ c ∈ rest.head?, value? c = none ∧ c ≠ '.') :
    fraction? (fractionText digits ++ rest) = some (nanosOf digits, rest) := by
  cases digits with
  | nil =>
    rw [fractionText, List.nil_append, fraction?.eq_def]
    split
    · rename_i text
      exact absurd rfl (hrest '.' rfl).2
    · rfl
  | cons d digits =>
    have htake : take ((d :: digits).map char ++ rest) = (d :: digits, rest) := by
      rw [take_map_char_append h, take_of_head? fun c hc => (hrest c hc).1, List.append_nil]
    rw [fractionText_of_ne_nil (List.cons_ne_nil d digits), List.cons_append, fraction?, htake]

/-- **Digits that say exactly how much of a second has passed are read so**, however many they are.
-/
theorem nanosOf_eq {digits : List Nat} {nanos : Nat} (h : ∀ d ∈ digits, d < 10)
    (hexact : number digits * tenTo 9 = nanos * tenTo digits.length) : nanosOf digits = nanos := by
  have hten : ∀ a b, tenTo (a + b) = tenTo a * tenTo b := fun a b => Nat.pow_add ..
  have hpos : ∀ a, 0 < tenTo a := fun a => Nat.pow_pos (by decide)
  by_cases hlong : digits.length ≤ 9
  · have hnine : tenTo (9 - digits.length) * tenTo digits.length = tenTo 9 := by
      rw [← hten, Nat.sub_add_cancel hlong]
    rw [nanosOf, List.take_of_length_le hlong]
    rw [← hnine, ← Nat.mul_assoc] at hexact
    exact Nat.eq_of_mul_eq_mul_right (hpos _) hexact
  · -- the digits after the ninth are all zero
    have hlength : digits.length = 9 + (digits.drop 9).length := by
      rw [List.length_drop]
      omega
    have hsplit : number digits =
        number (digits.take 9) * tenTo (digits.drop 9).length + number (digits.drop 9) := by
      rw [← number_append, List.take_append_drop]
    have hrest : number (digits.drop 9) < tenTo (digits.drop 9).length :=
      number_lt fun d hd => h d (List.mem_of_mem_drop hd)
    rw [hlength, hten, Nat.mul_comm (tenTo 9), ← Nat.mul_assoc] at hexact
    have hnumber := Nat.eq_of_mul_eq_mul_right (hpos 9) hexact
    have hfront : number (digits.take 9) = nanos := by
      have hdiv := ((Nat.div_mod_unique (hpos (digits.drop 9).length)).2
        ⟨by rw [Nat.add_comm, Nat.mul_comm, ← hsplit, hnumber], hrest⟩).1
      rw [← hdiv, Nat.mul_div_cancel _ (hpos _)]
    rw [nanosOf, hfront, Nat.sub_eq_zero_of_le (by omega)]
    exact Nat.mul_one nanos

/-! ## Numbers of two digits -/

variable {n : Nat}

theorem fixed?_two_append (h : n < 100) (rest : List Char) :
    fixed? 2 (padded 2 n ++ rest) = some (n, rest) :=
  fixed?_padded_append (by decide) h rest

theorem fixed?_two (h : n < 100) : fixed? 2 (padded 2 n) = some (n, []) := by
  rw [← List.append_nil (padded 2 n), fixed?_two_append h]

theorem endsPlainly_two (h : n < 100) : Text.EndsPlainly (padded 2 n) :=
  endsPlainly_padded (by decide) h

/-! ## Times of day -/

theorem isSome_timeOfDay? {hour minute second : Nat} (hhour : hour ≤ 23) (hminute : minute ≤ 59)
    (hsecond : second ≤ 60) (nanos : Nat) : (timeOfDay? hour minute second nanos).isSome := by
  rw [timeOfDay?, if_neg (by omega)]
  split <;> rfl

/-- The time of day that is written for the seconds since midnight and the nanoseconds. -/
theorem timeOfDay?_clock {seconds nanos : Nat} (hseconds : seconds < 86400)
    (hnanos : nanos < 2000000000) (hleap : 1000000000 ≤ nanos → seconds % 60 = 59) :
    timeOfDay? (seconds / 3600) (seconds / 60 % 60)
      (seconds % 60 + if 1000000000 ≤ nanos then 1 else 0) (nanos % 1000000000) =
        some (seconds, nanos) := by
  rw [timeOfDay?]
  by_cases h : 1000000000 ≤ nanos
  · have hlast := hleap h
    rw [if_pos h, if_neg (by omega), if_pos (by omega), Option.some.injEq, Prod.mk.injEq]
    omega
  · rw [if_neg h, if_neg (by omega), if_neg (by omega), Option.some.injEq, Prod.mk.injEq]
    omega

/-- A time of day is read back, whatever follows its fraction. -/
theorem fixedTime?_clockText_append {seconds nanos : Nat} (hseconds : seconds < 86400)
    (hnanos : nanos < 2000000000) (hleap : 1000000000 ≤ nanos → seconds % 60 = 59)
    {digits : List Nat} (hdigits : ∀ d ∈ digits, d < 10)
    (hexact : number digits * tenTo 9 = nanos % 1000000000 * tenTo digits.length)
    {rest : List Char} (hrest : ∀ c ∈ rest.head?, value? c = none ∧ c ≠ '.') :
    fixedTime? (clockText seconds (1000000000 ≤ nanos) ++ (fractionText digits ++ rest)) =
      some ((seconds, nanos), rest) := by
  have hhour := @fixed?_two_append (seconds / 3600) (by omega)
  have hminute := @fixed?_two_append (seconds / 60 % 60) (by omega)
  have hsecond := @fixed?_two_append (seconds % 60 + if 1000000000 ≤ nanos then 1 else 0)
    (by split <;> omega)
  simp only [clockText, decide_eq_true_eq, List.append_assoc, List.cons_append, fixedTime?, hhour,
    hminute, hsecond, after?, if_true, fraction?_fractionText_append hdigits hrest,
    nanosOf_eq hdigits hexact, timeOfDay?_clock hseconds hnanos hleap, Option.bind_eq_bind,
    Option.bind_some, Option.pure_def]

/-! ## Offsets -/

/-- A sign with hours and minutes is read as an offset by the sign. -/
theorem zone?_padded {sign : Char} {hours minutes : Nat} (hhours : hours ≤ 23)
    (hminutes : minutes ≤ 59) :
    zone? (sign :: (padded 2 hours ++ ':' :: padded 2 minutes)) =
      if sign = '+' then Offset.ofSeconds? (hours * 3600 + minutes * 60)
      else if sign = '-' ∨ sign = '\u2212' then Offset.ofSeconds? (-(hours * 3600 + minutes * 60))
      else none := by
  have hhour := @fixed?_two_append hours (by omega)
  have hminute := @fixed?_two minutes (by omega)
  have hlong : padded 2 hours ++ ':' :: padded 2 minutes ≠ [] := by simp
  have hplain : ¬ (¬ ([] : List Char).isEmpty = true ∨ 23 < hours ∨ 59 < minutes) := by
    simp only [List.isEmpty_nil, not_true, false_or]
    omega
  rw [zone?]
  · simp only [hhour, hminute, after?, if_true, Option.bind_eq_bind, Option.bind_some, hplain,
      if_false]
  · exact hlong

end Calendar

namespace Offset

theorem ofSeconds?_seconds (offset : Offset) : ofSeconds? offset.seconds = some offset := by
  rw [ofSeconds?, dif_pos offset.bounded]

/-- The texts of an offset: a letter for universal time, or a sign with hours and minutes.  The sign
may be the minus sign U+2212. -/
inductive IsWritten (offset : Offset) : List Char → Prop
  | letter {c : Char} (hc : c = 'Z' ∨ c = 'z') (hzero : offset.seconds = 0) : IsWritten offset [c]
  | ahead {hours minutes : Nat} (hhours : hours ≤ 23) (hminutes : minutes ≤ 59)
      (hseconds : offset.seconds = hours * 3600 + minutes * 60) :
      IsWritten offset ('+' :: (Digits.padded 2 hours ++ ':' :: Digits.padded 2 minutes))
  | behind {sign : Char} {hours minutes : Nat} (hsign : sign = '-' ∨ sign = '\u2212')
      (hhours : hours ≤ 23) (hminutes : minutes ≤ 59)
      (hseconds : offset.seconds = -(hours * 3600 + minutes * 60)) :
      IsWritten offset (sign :: (Digits.padded 2 hours ++ ':' :: Digits.padded 2 minutes))

namespace IsWritten

variable {offset : Offset} {text : List Char}

/-- **A written offset is read back.** -/
theorem zone?_eq (h : offset.IsWritten text) : Calendar.zone? text = some offset := by
  cases h with
  | letter hc hzero =>
    rw [Calendar.zone?, if_pos hc, ← ofSeconds?_seconds offset, hzero]
    rfl
  | ahead hhours hminutes hseconds =>
    rw [Calendar.zone?_padded hhours hminutes, if_pos rfl, ← hseconds, ofSeconds?_seconds]
  | behind hsign hhours hminutes hseconds =>
    rw [Calendar.zone?_padded hhours hminutes, if_neg, if_pos hsign, ← hseconds,
      ofSeconds?_seconds]
    rintro rfl
    revert hsign
    decide

/-- An offset begins with a letter or a sign: with no digit and no point. -/
theorem head? (h : offset.IsWritten text) :
    ∀ c ∈ text.head?, Digits.value? c = none ∧ c ≠ '.' := by
  intro c hc
  cases h with
  | letter hletter _ =>
    obtain rfl := Option.some.inj hc
    rcases hletter with rfl | rfl <;> decide
  | ahead =>
    obtain rfl := Option.some.inj hc
    decide
  | behind hsign =>
    obtain rfl := Option.some.inj hc
    rcases hsign with rfl | rfl <;> decide

theorem endsPlainly (h : offset.IsWritten text) : Text.EndsPlainly text := by
  cases h with
  | letter hletter _ =>
    refine ⟨_, rfl, ?_⟩
    rcases hletter with rfl | rfl <;> decide
  | @ahead hours minutes _ hminutes =>
    have hlast := @Calendar.endsPlainly_two minutes (by omega)
    exact ((hlast.cons ':').append _).cons '+'
  | @behind sign hours minutes _ _ hminutes =>
    have hlast := @Calendar.endsPlainly_two minutes (by omega)
    exact ((hlast.cons ':').append _).cons sign

end IsWritten
end Offset

/-! ## Moments -/

namespace Moment

variable {m : Moment} {text : List Char}

/-- The texts of a moment in the format of RFC 3339: the date and the time of day that its own clock
shows, as many digits after the second as say exactly how much of the second has passed, or more,
and the offset of the clock.  A leap second is the second 60. -/
inductive IsWritten (m : Moment) : List Char → Prop
  | intro {between : Char} {digits : List Nat} {zone : List Char}
      (hbetween : between = 'T' ∨ between = 't' ∨ between = ' ')
      (hleap : 1000000000 ≤ m.instant.nanos → m.localSeconds % 60 = 59)
      (hdigits : ∀ d ∈ digits, d < 10)
      (hexact : Digits.number digits * tenTo 9 =
        m.instant.nanos % 1000000000 * tenTo digits.length)
      (hzone : m.offset.IsWritten zone) :
      IsWritten m ((Civil.ofNumber (m.localSeconds / 86400)).text ++ between ::
        (clockText (m.localSeconds % 86400).toNat (1000000000 ≤ m.instant.nanos) ++
          (Calendar.fractionText digits ++ zone)))

/-- **A written moment is read back**, if its year has four digits. -/
theorem IsWritten.ofText?_eq (h : m.IsWritten text) {d : Day}
    (hd : d.number = m.localSeconds / 86400) (hyear : d.HasFourDigitYear) :
    ofText? (String.ofList text) = some m := by
  cases h with
  | @intro between digits zone hbetween hleap hdigits hexact hzone =>
    have hcivil : Civil.ofNumber (m.localSeconds / 86400) = d.civil := by rw [Day.civil, hd]
    have hclock := @Calendar.fixedTime?_clockText_append (m.localSeconds % 86400).toNat
      m.instant.nanos (by omega) m.instant.nanos_lt (fun h => by have := hleap h; omega) digits
      hdigits hexact zone hzone.head?
    have hinstant : Instant.ofSeconds? (d.number * 86400 + (m.localSeconds % 86400).toNat -
        m.offset.seconds) m.instant.nanos = some m.instant := by
      have hseconds : d.number * 86400 + (m.localSeconds % 86400).toNat - m.offset.seconds =
          m.instant.seconds := by
        rw [hd, localSeconds]
        omega
      rw [hseconds, Instant.ofSeconds?_eq m.instant.nanos_lt m.instant.inCalendar]
    have hletter : ∀ rest, Calendar.betweenDateAndTime? (between :: rest) = some rest :=
      fun rest => if_pos hbetween
    simp only [ofText?, String.toList_ofList, hcivil, Calendar.fixedDate?_text_append hyear,
      hletter, hclock, hzone.zone?_eq, hinstant, Option.bind_eq_bind, Option.bind_some,
      Option.pure_def]

theorem IsWritten.trim_eq (h : m.IsWritten text) {d : Day}
    (hd : d.number = m.localSeconds / 86400) (hyear : d.HasFourDigitYear) :
    Text.trim (String.ofList text) = String.ofList text := by
  cases h with
  | @intro between digits zone hbetween hleap hdigits hexact hzone =>
    have hcivil : Civil.ofNumber (m.localSeconds / 86400) = d.civil := by rw [Day.civil, hd]
    rw [hcivil]
    refine Text.trim_ofList (hyear.beginsPlainly_text.append _) ?_
    exact (((hzone.endsPlainly.append _).append _).cons between).append _

/-- **The text that is made of a moment is one of its texts**, if its offset is a whole number of
minutes and a leap second is the last one of a minute. -/
theorem isWritten_text (hminutes : m.offset.seconds % 60 = 0)
    (hleap : 1000000000 ≤ m.instant.nanos → m.localSeconds % 60 = 59) :
    m.IsWritten m.text.toList := by
  have hbounds := m.offset.bounded
  have hnanos : m.instant.nanos % 1000000000 < tenTo 9 := Nat.mod_lt _ (by decide)
  have hzone : m.offset.IsWritten m.offset.text := by
    have hwhole : (m.offset.seconds.natAbs + 30) / 60 * 60 = m.offset.seconds.natAbs := by omega
    rw [Offset.text]
    by_cases hbehind : m.offset.seconds < 0
    · rw [if_pos hbehind]
      exact .behind (.inl rfl) (by omega) (by omega) (by omega)
    · rw [if_neg hbehind]
      exact .ahead (by omega) (by omega) (by omega)
  have htext := IsWritten.intro (.inl rfl) hleap
    (fun d hd => Digits.lt_ten_of_mem_lastDigits hd) (by rw [Digits.number_lastDigits hnanos,
      Digits.length_lastDigits]) hzone
  have hdigits : Digits.lastDigits 9 (m.instant.nanos % 1000000000) ≠ [] := by
    rw [← List.length_pos_iff, Digits.length_lastDigits]
    decide
  rw [text, String.toList_ofList, clockReading, Digits.padded_eq (by decide) hnanos]
  simpa [Calendar.fractionText_of_ne_nil hdigits] using htext

end Moment

/-! ## Local times -/

namespace Calendar

/-- The texts of the times of a day: hours and minutes, and possibly seconds with a fraction of any
length.  The second 60 is a leap second. -/
inductive IsTimeOfDay : List Char → Prop
  | minutes {hour minute : Nat} (hhour : hour ≤ 23) (hminute : minute ≤ 59) :
      IsTimeOfDay (Digits.padded 2 hour ++ ':' :: Digits.padded 2 minute)
  | seconds {hour minute second : Nat} {digits : List Nat} (hhour : hour ≤ 23)
      (hminute : minute ≤ 59) (hsecond : second ≤ 60) (hdigits : ∀ d ∈ digits, d < 10) :
      IsTimeOfDay (Digits.padded 2 hour ++ ':' :: (Digits.padded 2 minute ++ ':' ::
        (Digits.padded 2 second ++ fractionText digits)))

namespace IsTimeOfDay

variable {time : List Char}

theorem isFreeTime_eq (h : IsTimeOfDay time) : isFreeTime time = true := by
  cases h with
  | @minutes hour minute hhour hminute =>
    have hread := @field?_padded_append hour (by omega) (':' :: Digits.padded 2 minute)
    have hread' := @field?_padded_append minute (by omega) []
    rw [List.append_nil] at hread'
    simp [isFreeTime, hread, hread', after?, isSome_timeOfDay? hhour hminute (Nat.zero_le 60)]
  | @seconds hour minute second digits hhour hminute hsecond hdigits =>
    have hread := @field?_padded_append hour (by omega)
    have hread' := @field?_padded_append minute (by omega)
    have hread'' := @field?_padded_append second (by omega)
    have hfraction := @fraction?_fractionText_append digits hdigits [] (by simp)
    rw [List.append_nil] at hfraction
    simp [isFreeTime, hread, hread', hread'', hfraction, after?,
      isSome_timeOfDay? hhour hminute hsecond]

/-- A time of day without an offset is not the end of an instant. -/
theorem zone?_eq_none {time : List Char} (h : IsTimeOfDay time) :
    (fixedTime? time).bind (fun read => zone? read.2) = none := by
  cases h with
  | @minutes hour minute hhour hminute =>
    have hread := @fixed?_two_append hour (by omega)
    have hread' := @fixed?_two minute (by omega)
    simp [fixedTime?, hread, hread', after?]
  | @seconds hour minute second digits hhour hminute hsecond hdigits =>
    have hread := @fixed?_two_append hour (by omega)
    have hread' := @fixed?_two_append minute (by omega)
    have hread'' := @fixed?_two_append second (by omega)
    have hfraction := @fraction?_fractionText_append digits hdigits [] (by simp)
    rw [List.append_nil] at hfraction
    cases htime : timeOfDay? hour minute second (nanosOf digits) with
    | none => simp [fixedTime?, hread, hread', hread'', hfraction, after?, htime]
    | some time => simp [fixedTime?, hread, hread', hread'', hfraction, after?, htime, zone?]

theorem endsPlainly (h : IsTimeOfDay time) : Text.EndsPlainly time := by
  cases h with
  | @minutes hour minute hhour hminute =>
    exact ((@endsPlainly_two minute (by omega)).cons ':').append _
  | @seconds hour minute second digits hhour hminute hsecond hdigits =>
    have hlast := endsPlainly_append_fractionText (@endsPlainly_two second (by omega)) hdigits
    exact (((hlast.cons ':').append _).cons ':').append _

end IsTimeOfDay
end Calendar

namespace Day

variable {d : Day} {time : List Char}

theorem trim_text_append (h : d.HasFourDigitYear) (htime : Calendar.IsTimeOfDay time) :
    Text.trim (String.ofList (d.civil.text ++ 'T' :: time)) =
      String.ofList (d.civil.text ++ 'T' :: time) :=
  Text.trim_ofList (h.beginsPlainly_text.append _) ((htime.endsPlainly.cons 'T').append _)

/-- **A local time is read as the day it lies on**, and neither as an instant nor as a day alone. -/
theorem ofLocalTime?_text_append (h : d.HasFourDigitYear) (htime : Calendar.IsTimeOfDay time) :
    Moment.ofText? (String.ofList (d.civil.text ++ 'T' :: time)) = none ∧
      ofText? (String.ofList (d.civil.text ++ 'T' :: time)) = none ∧
      ofLocalTime? (String.ofList (d.civil.text ++ 'T' :: time)) = some d := by
  have hzone := htime.zone?_eq_none
  have hfree := Calendar.freeDate?_text_append h ('T' :: time)
  refine ⟨?_, ?_, ?_⟩
  · simp only [Moment.ofText?, String.toList_ofList, Calendar.fixedDate?_text_append h,
      Calendar.betweenDateAndTime?, Option.bind_eq_bind, Option.bind_some, true_or, if_true]
    cases hread : Calendar.fixedTime? time with
    | none => rfl
    | some read =>
      rw [hread, Option.bind_some] at hzone
      rw [Option.bind_some, hzone]
      rfl
  · rw [ofText?, String.toList_ofList, hfree]
  · rw [ofLocalTime?, String.toList_ofList, hfree]
    exact if_pos htime.isFreeTime_eq

end Day
end RecordFilter
