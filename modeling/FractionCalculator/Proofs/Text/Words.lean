import FractionCalculator.Text.Basic

/-!
# Splitting a line loses only trailing spaces

The words of a line contain no space and the last of them is not empty. A list
of that shape can be read back from the line that writes it, whatever number of
spaces follows, and every line is written in this way. `words_eq_iff` joins the
two directions, so that a line and its words determine each other up to the
spaces at the end.
-/

namespace FractionCalculator.Text

/-- The shape of the words of a line: no word contains a space, and the last
one, if any, is not empty. -/
def IsWordList (words : List Text) : Prop :=
  (∀ word ∈ words, ' ' ∉ word) ∧ words.getLast? ≠ some []

theorem isWordList_nil : IsWordList [] := by
  simp [IsWordList]

theorem isWordList_singleton {word : Text} :
    IsWordList [word] ↔ ' ' ∉ word ∧ word ≠ [] := by
  simp [IsWordList]

theorem isWordList_cons_cons {word next : Text} {later : List Text} :
    IsWordList (word :: next :: later) ↔ ' ' ∉ word ∧ IsWordList (next :: later) := by
  simp only [IsWordList, List.forall_mem_cons, List.getLast?_cons_cons, and_assoc]

theorem unwords_cons_cons (char : Char) (word : Text) (later : List Text) :
    unwords ((char :: word) :: later) = char :: unwords (word :: later) := by
  cases later <;> rfl

/-- Two lists of words are joined by a space as well. -/
theorem unwords_append (word : Text) (earlier : List Text) {later : List Text}
    (nonempty : later ≠ []) :
    unwords (word :: earlier ++ later) = unwords (word :: earlier) ++ ' ' :: unwords later := by
  induction earlier generalizing word with
  | nil =>
      cases later with
      | nil => exact absurd rfl nonempty
      | cons next later => rfl
  | cons next earlier inductionHypothesis =>
      rw [List.cons_append, List.cons_append, unwords, ← List.cons_append,
        inductionHypothesis, unwords, List.append_assoc, List.cons_append]

theorem isSuffix_unwords_concat (earlier : List Text) (last : Text) :
    last <:+ unwords (earlier ++ [last]) := by
  cases earlier with
  | nil => exact List.suffix_refl last
  | cons word earlier =>
      rw [unwords_append word earlier (List.cons_ne_nil last [])]
      exact (List.suffix_cons ' ' last).trans (List.suffix_append _ _)

/-! ## Lines from words -/

@[simp]
theorem words_replicate_space (spaces : Nat) : words (List.replicate spaces ' ') = [] := by
  induction spaces with
  | zero => rfl
  | succ spaces inductionHypothesis =>
      rw [List.replicate_succ, words_cons_space, inductionHypothesis, if_pos rfl]

/-- A word that ends its line stays as it is. -/
theorem words_append_replicate {word : Text} (spaceless : ' ' ∉ word) (nonempty : word ≠ [])
    (spaces : Nat) : words (word ++ List.replicate spaces ' ') = [word] := by
  induction word with
  | nil => exact absurd rfl nonempty
  | cons char word inductionHypothesis =>
      rw [List.mem_cons, not_or] at spaceless
      rw [List.cons_append, words_cons_of_ne (Ne.symm spaceless.1)]
      cases word with
      | nil => simp
      | cons next word =>
          rw [inductionHypothesis spaceless.2 (List.cons_ne_nil next word),
            List.headD_cons, List.tail_cons]

/-- A space that is followed by words ends the word before it, even an empty
one. -/
theorem words_append_space {word rest : Text} (spaceless : ' ' ∉ word)
    (nonempty : words rest ≠ []) : words (word ++ ' ' :: rest) = word :: words rest := by
  induction word with
  | nil => rw [List.nil_append, words_cons_space, if_neg nonempty]
  | cons char word inductionHypothesis =>
      rw [List.mem_cons, not_or] at spaceless
      rw [List.cons_append, words_cons_of_ne (Ne.symm spaceless.1),
        inductionHypothesis spaceless.2, List.headD_cons, List.tail_cons]

/-- The words of a line can be read back from it, with any number of spaces
after them. -/
theorem words_unwords_append {list : List Text} (shape : IsWordList list) (spaces : Nat) :
    words (unwords list ++ List.replicate spaces ' ') = list := by
  induction list with
  | nil => exact words_replicate_space spaces
  | cons word later inductionHypothesis =>
      cases later with
      | nil =>
          rw [isWordList_singleton] at shape
          exact words_append_replicate shape.1 shape.2 spaces
      | cons next later =>
          rw [isWordList_cons_cons] at shape
          have read := inductionHypothesis shape.2
          have nonempty : words (unwords (next :: later) ++ List.replicate spaces ' ') ≠ [] := by
            rw [read]
            exact List.cons_ne_nil next later
          rw [unwords, List.append_assoc, List.cons_append,
            words_append_space shape.1 nonempty, read]

/-! ## Words from lines -/

theorem isWordList_words (line : Text) : IsWordList (words line) := by
  induction line with
  | nil => exact isWordList_nil
  | cons char rest inductionHypothesis =>
      by_cases space : char = ' '
      · subst space
        rw [words_cons_space]
        cases found : words rest with
        | nil => simpa using isWordList_nil
        | cons word later =>
            rw [found] at inductionHypothesis
            simpa [isWordList_cons_cons] using inductionHypothesis
      · rw [words_cons_of_ne space]
        cases found : words rest with
        | nil => simpa [isWordList_singleton] using Ne.symm space
        | cons word later =>
            rw [found] at inductionHypothesis
            cases later with
            | nil =>
                rw [isWordList_singleton] at inductionHypothesis
                simpa [isWordList_singleton, Ne.symm space] using inductionHypothesis.1
            | cons next later =>
                rw [isWordList_cons_cons] at inductionHypothesis
                simpa [isWordList_cons_cons, Ne.symm space] using inductionHypothesis

/-- Joining the words of a line again gives the line without the spaces at its
end. -/
theorem exists_unwords_words_append (line : Text) :
    ∃ spaces, line = unwords (words line) ++ List.replicate spaces ' ' := by
  induction line with
  | nil => exact ⟨0, rfl⟩
  | cons char rest inductionHypothesis =>
      obtain ⟨spaces, written⟩ := inductionHypothesis
      by_cases space : char = ' '
      · subst space
        rw [words_cons_space]
        cases found : words rest with
        | nil =>
            rw [found] at written
            exact ⟨spaces + 1, by simpa [unwords, List.replicate_succ] using written⟩
        | cons word later =>
            rw [found] at written
            exact ⟨spaces, by simpa [unwords] using written⟩
      · rw [words_cons_of_ne space]
        cases found : words rest with
        | nil =>
            rw [found] at written
            exact ⟨spaces, by simpa [unwords] using written⟩
        | cons word later =>
            rw [found] at written
            exact ⟨spaces, by simpa [unwords_cons_cons] using written⟩

/-- A line has given words exactly when it writes them with one space between
neighbours and spaces alone after the last. -/
theorem words_eq_iff (line : Text) (list : List Text) :
    words line = list ↔
      IsWordList list ∧ ∃ spaces, line = unwords list ++ List.replicate spaces ' ' := by
  constructor
  · rintro rfl
    exact ⟨isWordList_words line, exists_unwords_words_append line⟩
  · rintro ⟨shape, spaces, rfl⟩
    exact words_unwords_append shape spaces

/-- A line has two words, the second of one character, exactly when that
character and spaces alone stand after the first space. -/
theorem words_eq_pair_iff (line first : Text) (name : Char) :
    words line = [first, [name]] ↔
      ' ' ∉ first ∧ name ≠ ' ' ∧
        ∃ spaces, line = first ++ ' ' :: name :: List.replicate spaces ' ' := by
  rw [words_eq_iff, isWordList_cons_cons, isWordList_singleton, and_assoc]
  simp [unwords, eq_comm (a := ' ')]

/-- A line without words is a run of spaces. -/
theorem words_eq_nil_iff (line : Text) : words line = [] ↔ ∀ char ∈ line, char = ' ' := by
  rw [words_eq_iff, and_iff_right isWordList_nil]
  constructor
  · rintro ⟨spaces, rfl⟩ char member
    exact List.eq_of_mem_replicate (by simpa [unwords] using member)
  · intro blank
    exact ⟨line.length, List.eq_replicate_of_mem blank⟩

theorem words_ne_nil {line : Text} (nonempty : line ≠ []) (ends : line.getLast? ≠ some ' ') :
    words line ≠ [] := by
  intro blank
  have space := (words_eq_nil_iff line).mp blank _ (List.getLast_mem nonempty)
  rw [List.getLast?_eq_some_getLast nonempty, space] at ends
  exact ends rfl

/-- After a line that does not end in a space, another space begins further
words. -/
theorem words_append_cons_space {line : Text} (nonempty : line ≠ [])
    (ends : line.getLast? ≠ some ' ') (rest : Text) :
    words (line ++ ' ' :: rest) = words line ++ words rest := by
  induction line with
  | nil => exact absurd rfl nonempty
  | cons char line inductionHypothesis =>
      cases line with
      | nil =>
          have word : char ≠ ' ' := by simpa using ends
          rw [List.cons_append, List.nil_append, words_cons_of_ne word, words_cons_space,
            words_cons_of_ne word]
          cases words rest <;> rfl
      | cons next line =>
          rw [List.getLast?_cons_cons] at ends
          have split := inductionHypothesis (List.cons_ne_nil next line) ends
          obtain ⟨word, later, found⟩ :=
            List.exists_cons_of_ne_nil (words_ne_nil (List.cons_ne_nil next line) ends)
          rw [found] at split
          rw [List.cons_append]
          by_cases space : char = ' '
          · rw [space, words_cons_space, words_cons_space, split, found]
            rfl
          · rw [words_cons_of_ne space, words_cons_of_ne space, split, found]
            rfl

end FractionCalculator.Text
