import RecordFilter.Period.Window

/-!
# Two steps that may have a fault

Compiling goes through lists and trees step by step, and each step may end in the one fault there
is, `OffCalendar`.  Every such walk is made of *both* steps: a first one, the rest, and a result
made from what the two return.

* `OffCalendar.map_both` — what is made of the result of both steps can be made of the results of
  each.
* `OffCalendar.map_both_congr` — two walks agree when both of their steps do.
* `OffCalendar.both_eq_error_iff` — both steps have a fault when one of them has.
* `OffCalendar.both_eq_ok_iff` — and return when each of them returns.
-/

set_option autoImplicit false

namespace RecordFilter
namespace OffCalendar

variable {α β γ δ ε ζ α' β' γ' : Type}

theorem map_both {x : Except OffCalendar α} {y : Except OffCalendar β} {f : α → β → γ}
    {out : γ → δ} {left : α → ε} {right : β → ζ} {g : ε → ζ → δ}
    (h : ∀ a b, out (f a b) = g (left a) (right b)) :
    (do let a ← x; let b ← y; return f a b : Except OffCalendar γ).map out =
      (do let a ← x.map left; let b ← y.map right; return g a b) := by
  cases x with
  | error fault => rfl
  | ok a =>
    cases y with
    | error fault => rfl
    | ok b => exact congrArg Except.ok (h a b)

/-- Two walks whose steps agree, as seen through `left` and `right`, agree as seen through `out`. -/
theorem map_both_congr {x : Except OffCalendar α} {x' : Except OffCalendar α'}
    {y : Except OffCalendar β} {y' : Except OffCalendar β'} {f : α → β → γ} {f' : α' → β' → γ'}
    {left : α → ε} {left' : α' → ε} {right : β → ζ} {right' : β' → ζ} {out : γ → δ} {out' : γ' → δ}
    (hx : x.map left = x'.map left') (hy : y.map right = y'.map right')
    (h : ∀ a b a' b', left a = left' a' → right b = right' b' → out (f a b) = out' (f' a' b')) :
    (do let a ← x; let b ← y; return f a b : Except OffCalendar γ).map out =
      (do let a ← x'; let b ← y'; return f' a b : Except OffCalendar γ').map out' := by
  cases x with
  | error fault =>
    cases x' with
    | error fault' => exact congrArg Except.error (Except.error.inj hx)
    | ok a' => exact nomatch hx
  | ok a =>
    cases x' with
    | error fault' => exact nomatch hx
    | ok a' =>
      cases y with
      | error fault =>
        cases y' with
        | error fault' => exact congrArg Except.error (Except.error.inj hy)
        | ok b' => exact nomatch hy
      | ok b =>
        cases y' with
        | error fault' => exact nomatch hy
        | ok b' => exact congrArg Except.ok (h a b a' b' (Except.ok.inj hx) (Except.ok.inj hy))

/-- There is only one fault, so a step returns unless it has that one. -/
theorem exists_ok_iff {x : Except OffCalendar α} :
    (∃ a, x = .ok a) ↔ ¬ x = .error .offCalendar := by
  cases x with
  | error fault => cases fault; exact iff_of_false nofun fun h => h rfl
  | ok a => exact iff_of_true ⟨a, rfl⟩ nofun

/-- What is made of the result of a step is there when the step returns. -/
theorem exists_map_ok_iff (f : α → β) (x : Except OffCalendar α) :
    (∃ b, x.map f = .ok b) ↔ ∃ a, x = .ok a := by
  cases x with
  | error fault => exact iff_of_false nofun nofun
  | ok a => exact iff_of_true ⟨f a, rfl⟩ ⟨a, rfl⟩

theorem both_eq_error_iff {x : Except OffCalendar α} {y : Except OffCalendar β} {f : α → β → γ} :
    (do let a ← x; let b ← y; return f a b : Except OffCalendar γ) = .error .offCalendar ↔
      x = .error .offCalendar ∨ y = .error .offCalendar := by
  cases x with
  | error fault => cases fault; exact iff_of_true rfl (Or.inl rfl)
  | ok a =>
    cases y with
    | error fault => cases fault; exact iff_of_true rfl (Or.inr rfl)
    | ok b => exact iff_of_false nofun (by rintro (h | h) <;> exact nomatch h)

theorem both_eq_ok_iff {x : Except OffCalendar α} {y : Except OffCalendar β} {f : α → β → γ}
    {c : γ} :
    (do let a ← x; let b ← y; return f a b : Except OffCalendar γ) = .ok c ↔
      ∃ a b, x = .ok a ∧ y = .ok b ∧ f a b = c := by
  cases x with
  | error fault => exact iff_of_false nofun fun ⟨_, _, h, _⟩ => nomatch h
  | ok a =>
    cases y with
    | error fault => exact iff_of_false nofun fun ⟨_, _, _, h, _⟩ => nomatch h
    | ok b =>
      constructor
      · intro h
        exact ⟨a, b, rfl, rfl, Except.ok.inj h⟩
      · rintro ⟨_, _, ⟨⟩, ⟨⟩, rfl⟩
        rfl

theorem map_map (x : Except OffCalendar α) (f : α → β) (g : β → γ) :
    (x.map f).map g = x.map fun a => g (f a) := by
  cases x <;> rfl

theorem map_eq_error_iff {x : Except OffCalendar α} {f : α → β} :
    x.map f = .error .offCalendar ↔ x = .error .offCalendar := by
  cases x with
  | error fault => cases fault; exact iff_of_true rfl rfl
  | ok a => exact iff_of_false nofun nofun

theorem map_eq_ok_iff {x : Except OffCalendar α} {f : α → β} {b : β} :
    x.map f = .ok b ↔ ∃ a, x = .ok a ∧ f a = b := by
  cases x with
  | error fault => exact iff_of_false nofun fun ⟨_, h, _⟩ => nomatch h
  | ok a => simp [Except.map]

end OffCalendar
end RecordFilter
