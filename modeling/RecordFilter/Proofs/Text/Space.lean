import Mathlib.Data.List.DropRight
import RecordFilter.Text.Space

/-!
# White space around a text

Keys, values and the names of fields are read without the white space around them.  This file says
what is left of a text, and that putting white space around a text changes nothing about it.

* `Text.trim_trim` — what is left has no white space around it.
* `Text.isEmpty_trim` — nothing is left exactly of a blank text.
* `Text.trim_surround` — white space around a text makes no difference.
* `Text.BeginsPlainly`, `Text.EndsPlainly` — no white space at an end; `Text.trim_ofList` says that
  a text without any at both of its ends is left as it is.
-/

set_option autoImplicit false

namespace RecordFilter
namespace Text

theorem trimChars_eq (text : List Char) :
    trimChars text = (text.dropWhile isSpace).rdropWhile isSpace :=
  rfl

theorem trimChars_trimChars (text : List Char) : trimChars (trimChars text) = trimChars text := by
  -- what is left starts like the text without the white space before it
  have hhead : (trimChars text).dropWhile isSpace = trimChars text := by
    rw [List.dropWhile_eq_self_iff]
    intro hpos
    have hstart : trimChars text <+: text.dropWhile isSpace := List.rdropWhile_prefix _ _
    have hlen := hstart.length_le
    have hkept := List.dropWhile_eq_self_iff.1 (List.dropWhile_idempotent isSpace text)
      (hpos.trans_le hlen)
    show ¬ isSpace (trimChars text)[0] = true
    rw [hstart.getElem hpos]
    exact hkept
  rw [trimChars_eq (trimChars text), hhead, trimChars_eq, List.rdropWhile_idempotent]

theorem trim_trim (text : String) : trim (trim text) = trim text := by
  rw [trim, trim, String.toList_ofList, trimChars_trimChars]

/-! ## Blank texts -/

theorem trim_of_isBlank {text : String} (h : isBlank text = true) : trim text = "" := by
  have hall : ∀ c ∈ text.toList, isSpace c = true := List.all_eq_true.1 h
  have hnil : text.toList.dropWhile isSpace = [] := List.dropWhile_eq_nil_iff.2 hall
  rw [trim, trimChars, hnil]
  rfl

theorem isEmpty_trim (text : String) : (trim text).isEmpty = isBlank text := by
  rw [Bool.eq_iff_iff, String.isEmpty_iff]
  refine ⟨fun hempty => ?_, trim_of_isBlank⟩
  have hchars : trimChars text.toList = [] := by
    rw [← String.toList_ofList (l := trimChars text.toList), ← trim, hempty]
    rfl
  rw [trimChars_eq, List.rdropWhile_eq_nil_iff] at hchars
  refine List.all_eq_true.2 fun c hc => ?_
  rw [← List.takeWhile_append_dropWhile (p := isSpace) (l := text.toList), List.mem_append] at hc
  exact hc.elim List.mem_takeWhile_imp (hchars c)

/-! ## White space that is put around a text -/

theorem trimChars_surround {before after : List Char} (hbefore : ∀ c ∈ before, isSpace c = true)
    (hafter : ∀ c ∈ after, isSpace c = true) (text : List Char) :
    trimChars (before ++ text ++ after) = trimChars text := by
  rw [trimChars_eq, trimChars_eq, List.append_assoc, List.dropWhile_append_of_pos hbefore,
    List.dropWhile_append]
  by_cases hblank : (text.dropWhile isSpace).isEmpty = true
  · rw [if_pos hblank, List.dropWhile_eq_nil_iff.2 hafter, List.isEmpty_iff.1 hblank]
  · rw [if_neg hblank, List.rdropWhile, List.reverse_append,
      List.dropWhile_append_of_pos fun c hc => hafter c (List.mem_reverse.1 hc), List.rdropWhile]

/-- **White space around a text makes no difference.** -/
theorem trim_surround {before after : String} (hbefore : isBlank before = true)
    (hafter : isBlank after = true) (text : String) :
    trim (before ++ text ++ after) = trim text := by
  rw [trim, trim, String.toList_append, String.toList_append,
    trimChars_surround (List.all_eq_true.1 hbefore) (List.all_eq_true.1 hafter)]

/-! ## Texts with no white space around them -/

/-- Whether a text begins with a character that is no white space. -/
def BeginsPlainly (text : List Char) : Prop := ∃ c ∈ text.head?, isSpace c = false

/-- Whether a text ends with a character that is no white space. -/
def EndsPlainly (text : List Char) : Prop := ∃ c ∈ text.getLast?, isSpace c = false

theorem BeginsPlainly.append {text : List Char} (h : BeginsPlainly text) (rest : List Char) :
    BeginsPlainly (text ++ rest) := by
  obtain ⟨c, hc, hplain⟩ := h
  exact ⟨c, by simp [List.head?_append, Option.mem_def.1 hc], hplain⟩

theorem EndsPlainly.append {text : List Char} (h : EndsPlainly text) (front : List Char) :
    EndsPlainly (front ++ text) := by
  obtain ⟨c, hc, hplain⟩ := h
  exact ⟨c, by simp [List.getLast?_append, Option.mem_def.1 hc], hplain⟩

theorem EndsPlainly.cons {text : List Char} (h : EndsPlainly text) (c : Char) :
    EndsPlainly (c :: text) :=
  h.append [c]

theorem trimChars_eq_self {text : List Char} (hfirst : BeginsPlainly text)
    (hlast : EndsPlainly text) : trimChars text = text := by
  have hdrop : ∀ chars : List Char, (∃ c ∈ chars.head?, isSpace c = false) →
      chars.dropWhile isSpace = chars := by
    rintro chars ⟨c, hc, hplain⟩
    obtain ⟨rest, rfl⟩ := List.head?_eq_some_iff.1 hc
    exact List.dropWhile_cons_of_neg (by simp [hplain])
  rw [trimChars, hdrop text hfirst, hdrop text.reverse (by rwa [List.head?_reverse]),
    List.reverse_reverse]

theorem trim_ofList {text : List Char} (hfirst : BeginsPlainly text) (hlast : EndsPlainly text) :
    trim (String.ofList text) = String.ofList text := by
  rw [trim, String.toList_ofList, trimChars_eq_self hfirst hlast]

end Text
end RecordFilter
