import FractionCalculator.Proofs.Session.Storing

/-!
# Lines with a value

A line has a value only if it writes an expression, perhaps with spaces after it.
The fold of its words decides that, and the checks before it have no say: they
refuse a line over its last character, but no expression ends in such a character.
They only spare the fold of a line that would fail there. Since an expression is
written with few characters, so is every line with a value.
-/

namespace FractionCalculator

/-! ## The characters of expressions -/

/-- The characters that expressions are written with: digits, small letters, the
symbols of the operators and the space. -/
def Expression.InAlphabet (char : Char) : Prop :=
  char.isDigit = true ∨ char.isLower = true ∨ char ∈ "+-*/ ".toList

instance : DecidablePred Expression.InAlphabet := fun _ =>
  inferInstanceAs (Decidable (_ ∨ _ ∨ _))

theorem Register.isLower_letter (register : Register) : register.letter.isLower = true := by
  rcases register with ⟨index⟩
  revert index
  decide

theorem Operator.inAlphabet_symbol (operator : Operator) :
    Expression.InAlphabet operator.symbol := by
  cases operator <;> decide

section

variable {char : Char}

theorem Operand.inAlphabet_of_mem_text {operand : Operand} (member : char ∈ operand.text) :
    Expression.InAlphabet char := by
  cases operand with
  | literal literal defined =>
      by_contra foreign
      simp only [Expression.InAlphabet, not_or, Bool.not_eq_true] at foreign
      obtain ⟨noDigit, -, noSymbol⟩ := foreign
      refine literal.notMem_text noDigit ?_ ?_ member
      · rintro rfl
        exact noSymbol (by decide)
      · rintro rfl
        exact noSymbol (by decide)
  | register register =>
      obtain rfl := List.mem_singleton.mp member
      exact .inr (.inl register.isLower_letter)

theorem Pair.inAlphabet_of_mem_text {pair : Pair} (member : char ∈ pair.text) :
    Expression.InAlphabet char := by
  simp only [Pair.text, List.mem_cons] at member
  rcases member with rfl | rfl | rfl | inside
  · decide
  · exact pair.operator.inAlphabet_symbol
  · decide
  · exact Operand.inAlphabet_of_mem_text inside

theorem Expression.inAlphabet_of_mem_text {expression : Expression}
    (member : char ∈ expression.text) : InAlphabet char := by
  rw [Expression.text, List.mem_append, List.mem_flatMap] at member
  rcases member with inside | ⟨pair, -, inside⟩
  · exact Operand.inAlphabet_of_mem_text inside
  · exact Pair.inAlphabet_of_mem_text inside

end

namespace Session

variable {session : Session}

/-! ## Words with a value -/

/-- Words with a value begin with an operand, and the fold goes through the
others. -/
theorem exists_fold_of_evaluateWords_eq_ok {line : Text} {words : List Text} {value : Fraction}
    (evaluated : (session.evaluateWords line words).result = .ok value) :
    ∃ (first : Operand) (rest : List Text), words = first.text :: rest ∧
      (session.registers.fold (0 + first.fraction session.registers) rest).fault = none ∧
      (session.registers.fold (0 + first.fraction session.registers) rest).value = value := by
  cases words with
  | nil => contradiction
  | cons word rest =>
      rcases Registers.exists_operand_or_refused word with ⟨first, rfl⟩ | ⟨fault, refused⟩
      · rw [evaluateWords_text_eq, result_conclude] at evaluated
        split at evaluated
        · contradiction
        · rename_i through
          exact ⟨first, rest, rfl, through, Except.ok.inj evaluated⟩
      · rw [evaluateWords_of_refused refused] at evaluated
        contradiction

/-- They are the words of an expression: a fold that goes through leaves none. -/
theorem exists_words_eq_of_evaluateWords_eq_ok {line : Text} {words : List Text} {value : Fraction}
    (evaluated : (session.evaluateWords line words).result = .ok value) :
    ∃ expression : Expression, words = expression.words := by
  obtain ⟨first, rest, rfl, through, -⟩ := exists_fold_of_evaluateWords_eq_ok evaluated
  obtain ⟨pairs, tail, steps, extra, split, -, stops, -⟩ :=
    session.registers.exists_computes_fold (0 + first.fraction session.registers) rest
  rw [through] at stops
  cases stops
  rw [List.append_nil] at split
  exact ⟨⟨first, pairs⟩, by rw [split, Expression.words]⟩

/-! ## Lines with a value -/

/-- A line with a value passes the checks. -/
theorem evaluate_eq_evaluateWords_of_eq_ok {line : Text} {value : Fraction}
    (evaluated : (session.evaluate line).result = .ok value) :
    Text.endsInOperator line = false ∧
      session.evaluate line = session.evaluateWords line (Text.words line) := by
  rw [evaluate_eq_ite] at evaluated ⊢
  split at evaluated
  · contradiction
  · rename_i check
    exact ⟨Bool.eq_false_iff.mpr check, if_neg check⟩

/-- A line whose words have a value writes an expression. -/
theorem exists_text_append_of_evaluateWords_eq_ok {whole line : Text} {value : Fraction}
    (evaluated : (session.evaluateWords whole (Text.words line)).result = .ok value) :
    ∃ expression : Expression, ∃ spaces,
      line = expression.text ++ List.replicate spaces ' ' := by
  obtain ⟨expression, split⟩ := exists_words_eq_of_evaluateWords_eq_ok evaluated
  exact ⟨expression, (expression.words_eq_words_iff line).mp split⟩

theorem exists_text_append_of_evaluate_eq_ok {line : Text} {value : Fraction}
    (evaluated : (session.evaluate line).result = .ok value) :
    ∃ expression : Expression, ∃ spaces,
      line = expression.text ++ List.replicate spaces ' ' := by
  rw [(evaluate_eq_evaluateWords_of_eq_ok evaluated).2] at evaluated
  exact exists_text_append_of_evaluateWords_eq_ok evaluated

/-- An expression is folded as it is written, with any number of spaces after
it. -/
theorem evaluate_text_append_eq (session : Session) (expression : Expression) (spaces : Nat) :
    session.evaluate (expression.text ++ List.replicate spaces ' ') =
      session.conclude (expression.text ++ List.replicate spaces ' ')
        (session.registers.fold (0 + expression.first.fraction session.registers)
          (expression.pairs.flatMap Pair.words)) := by
  have split := (expression.words_eq_words_iff _).mpr ⟨spaces, rfl⟩
  have nonempty : expression.text ++ List.replicate spaces ' ' ≠ [] := by
    intro empty
    rw [empty] at split
    exact List.cons_ne_nil _ _ split.symm
  rw [evaluate_eq_evaluateWords nonempty (expression.getLast?_text_append_ne spaces), split,
    Expression.words, evaluateWords_text_eq]

/-- A store line has no value as an expression. -/
theorem not_storeMark_of_eq_ok {line : Text} {value : Fraction}
    (evaluated : (session.evaluate line).result = .ok value) :
    ¬ Instruction.storeMark <+: line := by
  rintro ⟨rest, rfl⟩
  have refused : Operand.Refused "STORE".toList (.notToken "STORE".toList) :=
    (session.registers.operand_eq_error_iff _ _).mp rfl
  rw [(evaluate_eq_evaluateWords_of_eq_ok evaluated).2, Text.words_storeMark_append,
    evaluateWords_of_refused refused] at evaluated
  contradiction

/-- Executing a line has a value exactly when evaluating it has. -/
theorem result_execute_eq_value_iff (session : Session) (line : Text) (value : Fraction) :
    (session.execute line).result = .ok (.value value) ↔
      (session.evaluate line).result = .ok value := by
  rw [result_execute, perform]
  constructor
  · intro executed
    cases instruction : Instruction.ofLine line with
    | store =>
        rw [instruction] at executed
        cases stored : (session.store line).result <;>
          simp [Report.map, Except.map, stored] at executed
    | evaluate =>
        rw [instruction] at executed
        cases evaluated : (session.evaluate line).result <;>
          simp [Report.map, Except.map, evaluated] at executed ⊢
        exact executed
  · intro evaluated
    rw [(Instruction.ofLine_eq_evaluate_iff line).mpr (not_storeMark_of_eq_ok evaluated)]
    simp only [Report.map, Except.map, evaluated]

/-- It leaves the value in the accumulator, and the registers as they were. -/
theorem session_execute_of_eq_ok {line : Text} {value : Fraction}
    (evaluated : (session.evaluate line).result = .ok value) :
    (session.execute line).session = ⟨session.registers, value⟩ := by
  have instruction := (Instruction.ofLine_eq_evaluate_iff line).mpr
    (not_storeMark_of_eq_ok evaluated)
  have byWords := (evaluate_eq_evaluateWords_of_eq_ok evaluated).2
  rw [byWords] at evaluated
  obtain ⟨first, rest, split, -, reached⟩ := exists_fold_of_evaluateWords_eq_ok evaluated
  rw [session_execute, perform, instruction, Report.session_map, byWords, split,
    evaluateWords_text_eq, session_conclude, reached]

/-- A line that is executed without a fault stores, or it is written with the
characters of expressions. -/
theorem storesIn_or_inAlphabet_of_execute_eq_ok {line : Text} {answer : Answer}
    (executed : (session.execute line).result = .ok answer) :
    (∃ register, line.StoresIn register) ∨ ∀ char ∈ line, Expression.InAlphabet char := by
  cases answer with
  | value value =>
      rw [result_execute_eq_value_iff] at executed
      obtain ⟨expression, spaces, rfl⟩ := exists_text_append_of_evaluate_eq_ok executed
      refine .inr fun char member => ?_
      rcases List.mem_append.mp member with inside | after
      · exact Expression.inAlphabet_of_mem_text inside
      · rw [List.eq_of_mem_replicate after]
        decide
  | stored register =>
      exact .inl ⟨register, (session.result_execute_eq_stored_iff line register).mp executed⟩

/-- So there is no other character in it than these and those of the mark of store
lines. -/
theorem mem_of_execute_eq_ok {line : Text} {answer : Answer}
    (executed : (session.execute line).result = .ok answer) {char : Char} (member : char ∈ line) :
    Expression.InAlphabet char ∨ char ∈ Instruction.storeMark := by
  rcases storesIn_or_inAlphabet_of_execute_eq_ok executed with ⟨register, spaces, rfl⟩ | all
  · rw [List.mem_append, List.mem_cons] at member
    rcases member with mark | rfl | after
    · exact .inr mark
    · exact .inl (.inr (.inl register.isLower_letter))
    · rw [List.eq_of_mem_replicate after]
      exact .inl (by decide)
  · exact .inl (all char member)

/-! ## Lines refused by the checks -/

/-- A line that ends in an operator fails by its words as well. Its last word is no
operand, and as an operator it lacks one. -/
theorem exists_fault_of_getLast?_eq_symbol (session : Session) {line : Text} {operator : Operator}
    (last : line.getLast? = some operator.symbol) (whole : Text) :
    ∃ fault, (session.evaluateWords whole (Text.words line)).result = .error fault := by
  cases evaluated : (session.evaluateWords whole (Text.words line)).result with
  | error fault => exact ⟨fault, rfl⟩
  | ok value =>
      obtain ⟨expression, spaces, rfl⟩ := exists_text_append_of_evaluateWords_eq_ok evaluated
      exact absurd last (expression.getLast?_text_append_ne spaces operator)

/-- Evaluating the words of a line without the two checks before it succeeds for the
same lines, with the same value, registers, accumulator and log. In particular it
fails for every line that ends in an operator. -/
theorem checks_refuse_only_failing_lines (session : Session) (line : Text) :
    let unchecked := session.evaluateWords line (Text.words line)
    (∀ value, unchecked.result = .ok value ↔ (session.evaluate line).result = .ok value) ∧
      (∀ value, unchecked.result = .ok value → unchecked = session.evaluate line) ∧
      ∀ operator : Operator, line.getLast? = some operator.symbol →
        ∃ fault, unchecked.result = .error fault := by
  intro unchecked
  have same : ∀ value, unchecked.result = .ok value → session.evaluate line = unchecked := by
    intro value evaluated
    rw [evaluate_eq_ite, if_neg]
    rw [Text.endsInOperator_iff]
    rintro ⟨operator, last⟩
    obtain ⟨fault, failed⟩ := session.exists_fault_of_getLast?_eq_symbol last line
    rw [evaluated] at failed
    contradiction
  refine ⟨fun value => ⟨fun evaluated => ?_, fun evaluated => ?_⟩,
    fun value evaluated => (same value evaluated).symm,
    fun operator last => session.exists_fault_of_getLast?_eq_symbol last line⟩
  · rw [same value evaluated, evaluated]
  · rwa [(evaluate_eq_evaluateWords_of_eq_ok evaluated).2] at evaluated

/-- An operator at the end of a word in operand position, and one that lacks an
operand after a sum; only without the checks is the sum computed. -/
theorem checks_refuse_only_failing_lines_sum :
    fresh.evaluateWords "1/2 + 1/3  ".toList ["1/2".toList, "+".toList, "1/3".toList] =
        fresh.evaluate "1/2 + 1/3  ".toList ∧
      "1 + 2*".toList.getLast? = some Operator.mul.symbol ∧
      (∃ fault, (fresh.evaluateWords "1 + 2*".toList
        ["1".toList, "+".toList, "2*".toList]).result = .error fault) ∧
      "1 + 2 -".toList.getLast? = some Operator.sub.symbol ∧
      (∃ fault, (fresh.evaluateWords "1 + 2 -".toList
        ["1".toList, "+".toList, "2".toList, "-".toList]).result = .error fault) ∧
      (fresh.evaluateWords "1 + 2 -".toList
        ["1".toList, "+".toList, "2".toList, "-".toList]).session.accumulator = ⟨3, 1⟩ ∧
      (fresh.evaluate "1 + 2 -".toList).session = fresh := by
  obtain ⟨-, same, -⟩ := fresh.checks_refuse_only_failing_lines "1/2 + 1/3  ".toList
  obtain ⟨-, -, inWord⟩ := fresh.checks_refuse_only_failing_lines "1 + 2*".toList
  obtain ⟨-, -, ofSum⟩ := fresh.checks_refuse_only_failing_lines "1 + 2 -".toList
  exact ⟨same ⟨5, 6⟩ rfl, rfl, inWord .mul rfl, rfl, ofSum .sub rfl, rfl, rfl⟩

end Session

end FractionCalculator
