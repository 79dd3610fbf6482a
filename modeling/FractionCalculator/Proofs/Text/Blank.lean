import FractionCalculator.Text.Basic
import Mathlib.Data.List.DropRight

/-!
# What trimming keeps

Trimming keeps every character that is no blank, and a text that neither begins nor
ends in a blank as a whole. Blanks added at the end of a text make no difference.
-/

namespace FractionCalculator.Text

section

variable {blanks : Text} (blank : ∀ char ∈ blanks, isBlank char = true)
include blank

theorem trimEnd_append (text : Text) : trimEnd (text ++ blanks) = trimEnd text := by
  have reversed : ∀ char ∈ blanks.reverse, isBlank char = true :=
    fun char member => blank char (List.mem_reverse.mp member)
  rw [trimEnd, List.reverse_append, List.dropWhile_append_of_pos reversed, trimEnd]

/-- Blanks after a text are trimmed away with those at its end. -/
theorem trim_append (text : Text) : trim (text ++ blanks) = trim text := by
  rw [trim, trim, List.dropWhile_append]
  split
  · rename_i nothing
    rw [List.isEmpty_iff.mp nothing, List.dropWhile_eq_nil_iff.mpr blank]
  · exact trimEnd_append blank _

end

variable {text : Text}

/-- A text is as it was trimmed unless a blank begins or ends it. -/
theorem trim_eq_self (begins : ∀ char ∈ text.head?, isBlank char = false)
    (ends : ∀ char ∈ text.getLast?, isBlank char = false) : trim text = text := by
  have front : text.dropWhile isBlank = text := by
    cases text with
    | nil => rfl
    | cons char rest => exact List.dropWhile_cons_of_neg (by simp [begins char rfl])
  have back : text.rdropWhile isBlank = text := by
    rw [List.rdropWhile_eq_self_iff]
    intro nonempty
    simp [ends _ (List.getLast?_eq_some_getLast nonempty)]
  rw [trim, front]
  exact back

theorem mem_trim {char : Char} (member : char ∈ text) (visible : isBlank char = false) :
    char ∈ trim text := by
  have whole := List.takeWhile_append_dropWhile (p := isBlank) (l := text)
  obtain ⟨blanks, split, blank⟩ := exists_trimEnd_append (text.dropWhile isBlank)
  rw [← whole, split, List.mem_append, List.mem_append] at member
  rcases member with before | kept | after
  · have blankBefore := List.all_eq_true.mp List.all_takeWhile char before
    rw [visible] at blankBefore
    contradiction
  · exact kept
  · have blankAfter := blank char after
    rw [visible] at blankAfter
    contradiction

end FractionCalculator.Text
