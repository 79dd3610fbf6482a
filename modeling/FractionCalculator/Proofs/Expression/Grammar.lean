import FractionCalculator.Proofs.Expression.Operand
import FractionCalculator.Proofs.Text.Words

/-!
# Expressions as they are written

An expression is a first operand and pairs of an operator and an operand. Its
value is computed in the rational numbers strictly from the left, and it is
defined unless a division has a right operand of value zero. The fold of the
calculator goes through the pairs of a defined expression and reaches its value;
it stops early only at a pair that `Stuck` describes, and every list of words
splits into such a beginning and such a pair or nothing.
-/

namespace FractionCalculator

/-- An operator with its right operand. -/
structure Pair where
  operator : Operator
  operand : Operand

namespace Pair

/-- The two words of a pair. -/
def words (pair : Pair) : List Text :=
  [[pair.operator.symbol], pair.operand.text]

/-- A pair as it continues a line. -/
def text (pair : Pair) : Text :=
  ' ' :: pair.operator.symbol :: ' ' :: pair.operand.text

/-- A pair is defined unless it divides by zero. -/
def IsDefined (registers : Registers) (pair : Pair) : Prop :=
  pair.operator = .div → pair.operand.value registers ≠ 0

/-- The value after a pair. -/
def apply (registers : Registers) (value : ℚ) (pair : Pair) : ℚ :=
  pair.operator.onRat value (pair.operand.value registers)

end Pair

/-- A first operand and the pairs after it. -/
structure Expression where
  first : Operand
  pairs : List Pair

namespace Expression

def words (expression : Expression) : List Text :=
  expression.first.text :: expression.pairs.flatMap Pair.words

def text (expression : Expression) : Text :=
  expression.first.text ++ expression.pairs.flatMap Pair.text

def IsDefined (registers : Registers) (expression : Expression) : Prop :=
  ∀ pair ∈ expression.pairs, pair.IsDefined registers

/-- The value of an expression, from left to right without precedence. -/
def value (registers : Registers) (expression : Expression) : ℚ :=
  expression.pairs.foldl (Pair.apply registers) (expression.first.value registers)

end Expression

/-! ## The text of an expression -/

namespace Operand

/-- An operand ends in a digit or a letter, and so neither in a space nor in an
operator. -/
theorem exists_getLast?_text (operand : Operand) :
    ∃ last, operand.text.getLast? = some last ∧ last ≠ ' ' ∧
      ∀ operator : Operator, last ≠ operator.symbol := by
  cases operand with
  | literal literal defined =>
      obtain ⟨before, digits, written, isDigits⟩ := literal.exists_text_eq_append
      rw [Decimal.isDigits_iff] at isDigits
      have digit := isDigits.2 _ (List.getLast_mem isDigits.1)
      refine ⟨digits.getLast isDigits.1, ?_, ?_, ?_⟩
      · rw [text, written, List.getLast?_append_of_ne_nil before isDigits.1,
          List.getLast?_eq_getLast_of_ne_nil]
      · intro same
        rw [same] at digit
        contradiction
      · intro operator same
        rw [same, operator.isDigit_symbol] at digit
        contradiction
  | register register =>
      exact ⟨register.letter, rfl, register.letter_ne_space, register.letter_ne_symbol⟩

theorem text_ne_nil (operand : Operand) : operand.text ≠ [] := by
  obtain ⟨last, ends, -⟩ := operand.exists_getLast?_text
  intro empty
  rw [empty] at ends
  contradiction

theorem space_notMem_text (operand : Operand) : ' ' ∉ operand.text := by
  cases operand with
  | literal literal defined => exact literal.notMem_text rfl (by decide) (by decide)
  | register register => simpa [text] using register.letter_ne_space.symm

end Operand

theorem Operator.space_ne_symbol (operator : Operator) : ' ' ≠ operator.symbol := by
  cases operator <;> decide

theorem Text.isWordList_cons_flatMap {word : Text} (spaceless : ' ' ∉ word)
    (nonempty : word ≠ []) (pairs : List Pair) :
    IsWordList (word :: pairs.flatMap Pair.words) := by
  induction pairs generalizing word with
  | nil => exact isWordList_singleton.mpr ⟨spaceless, nonempty⟩
  | cons pair pairs inductionHypothesis =>
      have later := inductionHypothesis pair.operand.space_notMem_text pair.operand.text_ne_nil
      have symbol : ' ' ∉ [pair.operator.symbol] := by
        simpa using pair.operator.space_ne_symbol
      rw [List.flatMap_cons, Pair.words, List.cons_append, List.cons_append, List.nil_append,
        isWordList_cons_cons, isWordList_cons_cons]
      exact ⟨spaceless, symbol, later⟩

theorem Text.unwords_cons_flatMap (word : Text) (pairs : List Pair) :
    unwords (word :: pairs.flatMap Pair.words) = word ++ pairs.flatMap Pair.text := by
  induction pairs generalizing word with
  | nil => simp [unwords]
  | cons pair pairs inductionHypothesis =>
      rw [List.flatMap_cons, Pair.words, List.cons_append, List.cons_append, List.nil_append,
        unwords, unwords, inductionHypothesis, List.flatMap_cons, Pair.text]
      rfl

namespace Expression

/-- A line has the words of an expression exactly when it writes the expression
and spaces after it. -/
theorem words_eq_words_iff (line : Text) (expression : Expression) :
    Text.words line = expression.words ↔
      ∃ spaces, line = expression.text ++ List.replicate spaces ' ' := by
  rw [Text.words_eq_iff, words, Text.unwords_cons_flatMap,
    and_iff_right (Text.isWordList_cons_flatMap expression.first.space_notMem_text
      expression.first.text_ne_nil expression.pairs)]
  rfl

/-- An expression ends in an operand. -/
theorem exists_text_eq_append (expression : Expression) :
    ∃ before, ∃ operand : Operand, expression.text = before ++ operand.text := by
  rcases expression with ⟨first, pairs⟩
  rcases List.eq_nil_or_concat pairs with rfl | ⟨earlier, last, rfl⟩
  · exact ⟨[], first, by simp [text]⟩
  · exact ⟨first.text ++ earlier.flatMap Pair.text ++ [' ', last.operator.symbol, ' '],
      last.operand, by simp [text, Pair.text]⟩

/-- A line that writes an expression does not end in an operator. -/
theorem getLast?_text_append_ne (expression : Expression) (spaces : Nat)
    (operator : Operator) :
    (expression.text ++ List.replicate spaces ' ').getLast? ≠ some operator.symbol := by
  cases spaces with
  | zero =>
      obtain ⟨before, operand, written⟩ := expression.exists_text_eq_append
      obtain ⟨last, ends, -, noSymbol⟩ := operand.exists_getLast?_text
      rw [List.replicate_zero, List.append_nil, written,
        List.getLast?_append_of_ne_nil before operand.text_ne_nil, ends]
      exact fun same => noSymbol operator (Option.some.inj same)
  | succ spaces =>
      rw [List.replicate_succ', ← List.append_assoc, List.getLast?_concat]
      exact fun same => operator.space_ne_symbol (Option.some.inj same)

theorem text_append_space_prefix (expression : Expression) {line : Text} {rest : List Text}
    (split : Text.words line = expression.words ++ rest) (nonempty : rest ≠ []) :
    expression.text ++ [' '] <+: line := by
  obtain ⟨spaces, written⟩ := ((Text.words_eq_iff line _).mp split).2
  have joined := Text.unwords_append expression.first.text
    (expression.pairs.flatMap Pair.words) nonempty
  rw [Text.unwords_cons_flatMap] at joined
  refine ⟨Text.unwords rest ++ List.replicate spaces ' ', ?_⟩
  rw [written, words, joined]
  simp [text]

end Expression

/-! ## Folding pairs -/

/-- The words at which a fold stops: those from the first pair that fails. -/
inductive Stuck (registers : Registers) : List Text → Fault → Prop where
  | lone (word : Text) : Stuck registers [word] (.lacksOperand word)
  | operand {operator operand : Text} {rest : List Text} {fault : Fault}
      (refused : Operand.Refused operand fault) :
      Stuck registers (operator :: operand :: rest) fault
  | operator {word : Text} {operand : Operand} {rest : List Text}
      (noSymbol : ∀ operator : Operator, word ≠ [operator.symbol]) :
      Stuck registers (word :: operand.text :: rest) (.notOperator word)
  | zeroDivisor {operand : Operand} {rest : List Text} (zero : operand.value registers = 0) :
      Stuck registers ([Operator.div.symbol] :: operand.text :: rest) .divisionByZero

theorem Stuck.ne_nil {registers : Registers} {words : List Text} {fault : Fault}
    (stuck : Stuck registers words fault) : words ≠ [] := by
  cases stuck <;> exact List.cons_ne_nil _ _

namespace Registers

variable {registers : Registers} (reduced : registers.IsReduced)
include reduced

theorem step_words (start : ℚ) (pair : Pair) :
    registers.step (.ofRat start) [pair.operator.symbol] pair.operand.text =
      .ok ⟨.ofRat start, pair.operator, .ofRat (pair.operand.value registers)⟩ := by
  simp only [step, operand_text reduced, Operator.ofWord_symbol]

/-- A defined pair takes a fold from its value to the next and no further. -/
theorem fold_pair {pair : Pair} (defined : pair.IsDefined registers) (start : ℚ)
    (rest : List Text) :
    (registers.fold (.ofRat start) (pair.words ++ rest)).value =
        (registers.fold (.ofRat (pair.apply registers start)) rest).value ∧
      (registers.fold (.ofRat start) (pair.words ++ rest)).fault =
        (registers.fold (.ofRat (pair.apply registers start)) rest).fault := by
  have applied := pair.operator.apply_ofRat start (pair.operand.value registers)
  rw [if_neg (fun undefined => defined undefined.1 undefined.2)] at applied
  simp only [Pair.words, List.cons_append, List.nil_append, fold, step_words reduced,
    Step.result, applied]
  exact ⟨rfl, rfl⟩

/-- A fold goes through defined pairs and comes to the rest with their value. -/
theorem fold_pairs {pairs : List Pair} (defined : ∀ pair ∈ pairs, pair.IsDefined registers)
    (start : ℚ) (rest : List Text) :
    (registers.fold (.ofRat start) (pairs.flatMap Pair.words ++ rest)).value =
        (registers.fold (.ofRat (pairs.foldl (Pair.apply registers) start)) rest).value ∧
      (registers.fold (.ofRat start) (pairs.flatMap Pair.words ++ rest)).fault =
        (registers.fold (.ofRat (pairs.foldl (Pair.apply registers) start)) rest).fault := by
  induction pairs generalizing start with
  | nil => exact ⟨rfl, rfl⟩
  | cons pair pairs inductionHypothesis =>
      rw [List.forall_mem_cons] at defined
      have later := inductionHypothesis defined.2 (pair.apply registers start)
      have first := fold_pair reduced defined.1 start (pairs.flatMap Pair.words ++ rest)
      rw [List.flatMap_cons, List.append_assoc, List.foldl_cons]
      exact ⟨first.1.trans later.1, first.2.trans later.2⟩

/-- A stuck fold keeps its value and reports the fault. -/
theorem fold_of_stuck {words : List Text} {fault : Fault} (stuck : Stuck registers words fault)
    (start : ℚ) :
    (registers.fold (.ofRat start) words).value = .ofRat start ∧
      (registers.fold (.ofRat start) words).fault = some fault := by
  cases stuck with
  | lone word => exact ⟨rfl, rfl⟩
  | operand refused =>
      simp only [fold, step, operand_of_refused registers refused, and_self]
  | operator noSymbol =>
      simp only [fold, step, operand_text reduced, Operator.ofWord_of_ne noSymbol, and_self]
  | @zeroDivisor operand rest zero =>
      have divided := Operator.div.apply_ofRat start (operand.value registers)
      rw [if_pos ⟨rfl, zero⟩] at divided
      simp only [fold, step_words reduced start ⟨.div, operand⟩, Step.result, divided, and_self]

omit reduced in
/-- Every list of words begins with defined pairs, after which nothing is left
or a fold is stuck. -/
theorem exists_pairs_append (registers : Registers) :
    ∀ words : List Text, ∃ pairs rest,
      words = List.flatMap Pair.words pairs ++ rest ∧
        (∀ pair ∈ pairs, pair.IsDefined registers) ∧
        (rest = [] ∨ ∃ fault, Stuck registers rest fault)
  | [] => ⟨[], [], rfl, by simp, .inl rfl⟩
  | [word] => ⟨[], [word], rfl, by simp, .inr ⟨_, .lone word⟩⟩
  | operatorWord :: operandWord :: later => by
      rcases exists_operand_or_refused operandWord with ⟨operand, rfl⟩ | ⟨fault, refused⟩
      · by_cases symbol : ∃ operator : Operator, operatorWord = [operator.symbol]
        · obtain ⟨operator, rfl⟩ := symbol
          by_cases undefined : operator = .div ∧ operand.value registers = 0
          · obtain ⟨rfl, zero⟩ := undefined
            exact ⟨[], _, rfl, by simp, .inr ⟨_, .zeroDivisor zero⟩⟩
          · obtain ⟨pairs, rest, rfl, defined, ends⟩ := exists_pairs_append registers later
            have pairDefined : Pair.IsDefined registers ⟨operator, operand⟩ :=
              fun division zero => undefined ⟨division, zero⟩
            exact ⟨⟨operator, operand⟩ :: pairs, rest, rfl,
              List.forall_mem_cons.mpr ⟨pairDefined, defined⟩, ends⟩
        · exact ⟨[], _, rfl, by simp, .inr ⟨_, .operator (not_exists.mp symbol)⟩⟩
      · exact ⟨[], _, rfl, by simp, .inr ⟨_, .operand refused⟩⟩

end Registers

end FractionCalculator
