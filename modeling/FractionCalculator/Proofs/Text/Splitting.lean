import FractionCalculator.Proofs.Text.Words
import Mathlib.Data.List.DropRight

/-!
# Splitting in two passes

The words of a line can be had in two passes: cut the line at every space, then
take empty words off the end as long as there are any. The second pass undoes
exactly what the spaces at the end of the line have added. So the words join to the
line without these spaces, and no other list of the same shape does.
-/

namespace FractionCalculator.Text

theorem intercalate_space_eq_unwords (list : List Text) :
    [' '].intercalate list = unwords list := by
  induction list with
  | nil => rfl
  | cons word later inductionHypothesis =>
      cases later with
      | nil => exact List.intercalate_singleton
      | cons next later =>
          rw [List.intercalate_cons_cons, inductionHypothesis, List.append_assoc,
            List.singleton_append, unwords]

/-! ## Spaces at the end -/

theorem IsWordList.getLast?_unwords_ne {list : List Text} (shape : IsWordList list) :
    (unwords list).getLast? ≠ some ' ' := by
  rcases List.eq_nil_or_concat' list with rfl | ⟨earlier, last, rfl⟩
  · simp [unwords]
  · have nonempty : last ≠ [] := by simpa using shape.2
    obtain ⟨before, written⟩ := isSuffix_unwords_concat earlier last
    rw [← written, List.getLast?_append_of_ne_nil before nonempty]
    intro space
    exact shape.1 last (List.mem_append_right earlier (List.mem_singleton_self last))
      (List.mem_of_getLast? space)

/-- What is left when the spaces at the end are removed ends in no space, and
spaces alone follow it in the line. -/
theorem rdropWhile_space_eq_iff (line text : Text) :
    line.rdropWhile (· == ' ') = text ↔
      text.getLast? ≠ some ' ' ∧ ∃ spaces, line = text ++ List.replicate spaces ' ' := by
  constructor
  · rintro rfl
    constructor
    · intro space
      have nonempty : line.rdropWhile (· == ' ') ≠ [] := by
        intro empty
        rw [empty] at space
        contradiction
      rw [List.getLast?_eq_some_getLast nonempty, Option.some.injEq] at space
      exact List.rdropWhile_last_not (· == ' ') line nonempty (beq_iff_eq.mpr space)
    · have removed : line.rtakeWhile (· == ' ') = List.replicate _ ' ' :=
        List.eq_replicate_of_mem fun char member => by simpa using List.mem_rtakeWhile_imp member
      exact ⟨_, by rw [← removed, List.rdropWhile_append_rtakeWhile]⟩
  · rintro ⟨noSpace, spaces, rfl⟩
    induction spaces with
    | zero =>
        rw [List.replicate_zero, List.append_nil, List.rdropWhile_eq_self_iff]
        intro nonempty space
        rw [List.getLast?_eq_some_getLast nonempty, eq_of_beq space] at noSpace
        exact noSpace rfl
    | succ spaces inductionHypothesis =>
        rw [List.replicate_succ', ← List.append_assoc, List.rdropWhile_concat_pos _ _ _ rfl,
          inductionHypothesis]

/-! ## The two passes -/

/-- Every space at the end of a line adds an empty word at the end, which is taken
off again. -/
theorem rdropWhile_splitOn_append_replicate (text : Text) (spaces : Nat) :
    ((text ++ List.replicate spaces ' ').splitOn ' ').rdropWhile List.isEmpty =
      (text.splitOn ' ').rdropWhile List.isEmpty := by
  induction spaces with
  | zero => rw [List.replicate_zero, List.append_nil]
  | succ spaces inductionHypothesis =>
      rw [List.replicate_succ', ← List.append_assoc, List.splitOn_append_cons_self,
        List.splitOn_nil, List.rdropWhile_concat_pos _ _ _ rfl, inductionHypothesis]

/-- The words of a line are the pieces between its spaces, without the empty pieces
at the end. -/
theorem words_eq_rdropWhile_splitOn (line : Text) :
    words line = (line.splitOn ' ').rdropWhile List.isEmpty := by
  have shape := isWordList_words line
  obtain ⟨spaces, written⟩ := exists_unwords_words_append line
  generalize words line = list at shape written
  rw [written, rdropWhile_splitOn_append_replicate]
  cases list with
  | nil => rfl
  | cons word later =>
      have pieces : (unwords (word :: later)).splitOn ' ' = word :: later := by
        rw [← intercalate_space_eq_unwords,
          List.splitOn_intercalate ' ' shape.1 (List.cons_ne_nil word later)]
      rw [pieces, eq_comm, List.rdropWhile_eq_self_iff]
      intro nonempty empty
      rw [IsWordList, List.getLast?_eq_some_getLast nonempty, List.isEmpty_iff.mp empty] at shape
      exact shape.2 rfl

/-- The words of a line are the only words without spaces, the last of them not
empty, that join to the line without the spaces at its end. There are none exactly
if the line has nothing but spaces. The words of a line that does not end in a
space come first among the words of a line that goes on after another space. -/
theorem words_exact (line : Text) :
    (∀ list, words line = list ↔
        IsWordList list ∧ [' '].intercalate list = line.rdropWhile (· == ' ')) ∧
      (words line = [] ↔ ∀ char ∈ line, char = ' ') ∧
      (line ≠ [] → line.getLast? ≠ some ' ' →
        ∀ rest, words (line ++ ' ' :: rest) = words line ++ words rest) := by
  constructor
  · intro list
    rw [words_eq_iff, intercalate_space_eq_unwords, eq_comm (a := unwords list),
      rdropWhile_space_eq_iff]
    apply and_congr_right
    intro shape
    rw [and_iff_right shape.getLast?_unwords_ne]
  · exact ⟨words_eq_nil_iff line, words_append_cons_space⟩

/-- Spaces in front and inside leave empty words, also where two lines meet, and
spaces at the end leave none. -/
theorem words_exact_empty_words :
    let line := " 1  + 2".toList
    line ≠ [] ∧ line.getLast? ≠ some ' ' ∧
      IsWordList [[], ['1'], [], ['+'], ['2']] ∧
      [' '].intercalate [[], ['1'], [], ['+'], ['2']] = line.rdropWhile (· == ' ') ∧
      words (line ++ "  c  ".toList) = [[], ['1'], [], ['+'], ['2'], [], ['c']] := by
  intro line
  have nonempty : line ≠ [] := List.cons_ne_nil _ _
  have ends : line.getLast? ≠ some ' ' := by decide
  obtain ⟨unique, -, append⟩ := words_exact line
  obtain ⟨shape, joined⟩ := (unique _).mp rfl
  exact ⟨nonempty, ends, shape, joined, append nonempty ends " c  ".toList⟩

end FractionCalculator.Text
