import RecordFilter.Number.Digits
import RecordFilter.Number.Power

/-!
# A fixed number of digits

A number is written with a fixed count of digits by putting zeros in front of its decimal digits.
This file says that these are the last digits of the number, one for each position, and that reading
them gives the number back.

* `Digits.lastDigits` — the last digits of a number, as many as asked for.
* `Digits.padded_eq` — a number below a power of ten is written with these.
* `Digits.number_lastDigits` — they name the number.
* `Digits.take_map_char_append` — written digits are read as the digits they are.
* `Digits.exists_decimal_eq` — the same for all digits of a number.
* `Digits.padded_inj` — different numbers are written differently.
-/

set_option autoImplicit false

namespace RecordFilter
namespace Digits

/-! ## Written digits -/

theorem value?_char : ∀ d < 10, value? (char d) = some d := by decide

/-- **Written digits are read as the digits they are**, together with those that follow them. -/
theorem take_map_char_append {digits : List Nat} (h : ∀ d ∈ digits, d < 10) (rest : List Char) :
    take (digits.map char ++ rest) = (digits ++ (take rest).1, (take rest).2) := by
  induction digits with
  | nil => rfl
  | cons d digits ih =>
    have hd : value? (char d) = some d := value?_char d (h d List.mem_cons_self)
    have htail : ∀ x ∈ digits, x < 10 := fun x hx => h x (List.mem_cons_of_mem d hx)
    rw [List.map_cons, List.cons_append, take, hd]
    dsimp only
    rw [ih htail]
    rfl

theorem number_append_singleton (digits : List Nat) (d : Nat) :
    number (digits ++ [d]) = 10 * number digits + d := by
  rw [number, List.foldl_append]
  rfl

/-! ## Digits for each position -/

/-- The last digits of a number, most significant first, `width` of them. -/
def lastDigits : Nat → Nat → List Nat
  | 0, _ => []
  | width + 1, n => lastDigits width (n / 10) ++ [n % 10]

theorem length_lastDigits (width n : Nat) : (lastDigits width n).length = width := by
  induction width generalizing n with
  | zero => rfl
  | succ width ih => rw [lastDigits, List.length_append, ih, List.length_singleton]

theorem lt_ten_of_mem_lastDigits {width n d : Nat} (h : d ∈ lastDigits width n) : d < 10 := by
  induction width generalizing n with
  | zero => exact nomatch h
  | succ width ih =>
    rw [lastDigits, List.mem_append, List.mem_singleton] at h
    rcases h with hfront | rfl
    · exact ih hfront
    · exact Nat.mod_lt n (by decide)

theorem div_ten_lt {width n : Nat} (h : n < tenTo (width + 1)) : n / 10 < tenTo width := by
  have hten : tenTo (width + 1) = tenTo width * 10 := rfl
  exact Nat.div_lt_of_lt_mul (by omega)

/-- **The last digits of a small number name the number.** -/
theorem number_lastDigits {width n : Nat} (h : n < tenTo width) :
    number (lastDigits width n) = n := by
  induction width generalizing n with
  | zero =>
    have hzero : n < 1 := h
    rw [lastDigits, Nat.lt_one_iff.1 hzero]
    rfl
  | succ width ih =>
    rw [lastDigits, number_append_singleton, ih (div_ten_lt h)]
    exact Nat.div_add_mod n 10

theorem lastDigits_zero (width : Nat) : lastDigits width 0 = List.replicate width 0 := by
  induction width with
  | zero => rfl
  | succ width ih =>
    rw [lastDigits, Nat.zero_div, ih, Nat.zero_mod, ← List.replicate_succ']

/-- **A number below a power of ten is written with its last digits.**  Induction is on the number
of digits: all but the last one are those of a tenth of the number. -/
theorem padded_eq {width n : Nat} (hwidth : 0 < width) (h : n < tenTo width) :
    padded width n = (lastDigits width n).map char := by
  induction width generalizing n with
  | zero => exact absurd hwidth (Nat.lt_irrefl 0)
  | succ width ih =>
    rw [padded, decimal, lastDigits, List.map_append]
    by_cases hone : n < 10
    · have hfront : n / 10 = 0 := by omega
      rw [if_pos hone, hfront, lastDigits_zero, List.map_replicate, Nat.mod_eq_of_lt hone]
      rfl
    · have hpos : 0 < width := by
        rcases Nat.eq_zero_or_pos width with rfl | hpos
        · exact absurd h hone
        · exact hpos
      rw [if_neg hone, ← ih hpos (div_ten_lt h), padded, List.length_append, List.length_singleton,
        Nat.add_sub_add_right, List.append_assoc]
      rfl

/-! ## All digits -/

/-- **A number is written with the digits that name it**, and only zero begins with a zero. -/
theorem exists_decimal_eq (n : Nat) :
    ∃ d rest, decimal n = (d :: rest).map char ∧ (∀ x ∈ d :: rest, x < 10) ∧
      number (d :: rest) = n ∧ (d = 0 → rest = []) := by
  induction n using decimal.induct with
  | case1 n hn =>
    refine ⟨n, [], ?_, by simpa using hn, by simp [number], fun _ => rfl⟩
    rw [decimal, if_pos hn]
    rfl
  | case2 n hn ih =>
    obtain ⟨d, rest, htext, hdigits, hnumber, hzero⟩ := ih
    refine ⟨d, rest ++ [n % 10], ?_, ?_, ?_, ?_⟩
    · rw [decimal, if_neg hn, htext, ← List.cons_append, List.map_append]
      rfl
    · rw [← List.cons_append, List.forall_mem_append]
      exact ⟨hdigits, by simp [Nat.mod_lt]⟩
    · rw [← List.cons_append, number_append_singleton, hnumber]
      exact Nat.div_add_mod n 10
    · rintro rfl
      obtain rfl := hzero rfl
      have hfront : n / 10 = 0 := hnumber.symm
      omega

theorem number_replicate_zero_append (count : Nat) (digits : List Nat) :
    number (List.replicate count 0 ++ digits) = number digits := by
  induction count with
  | zero => rfl
  | succ count ih => rwa [List.replicate_succ, List.cons_append]

/-- **The digits of a number name it**, also behind zeros and however many they are. -/
theorem number_take_padded (width n : Nat) : number (take (padded width n)).1 = n := by
  obtain ⟨d, rest, htext, hdigits, hnumber, -⟩ := exists_decimal_eq n
  have hzeros : ∀ x ∈ List.replicate (width - (decimal n).length) 0, x < 10 := by simp
  have hread := take_map_char_append (List.forall_mem_append.2 ⟨hzeros, hdigits⟩) []
  have hpadded : padded width n =
      (List.replicate (width - (decimal n).length) 0 ++ d :: rest).map char := by
    rw [List.map_append, List.map_replicate, ← htext]
    rfl
  rw [List.append_nil, ← hpadded] at hread
  rw [hread]
  simp only [take, List.append_nil, number_replicate_zero_append]
  exact hnumber

/-- Different numbers are written differently. -/
theorem padded_inj {width m n : Nat} : padded width m = padded width n ↔ m = n := by
  refine ⟨fun h => ?_, congrArg _⟩
  rw [← number_take_padded width m, h, number_take_padded]

end Digits
end RecordFilter
