import FractionCalculator.Proofs.Expression.Grammar
import FractionCalculator.Session.Evaluate

/-!
# Which lines are evaluated, and how the others fail

A line is evaluated exactly when it writes a defined expression, perhaps with
spaces after it; its value is that of the expression, and the accumulator holds
it afterwards. `Failure` lists the ways in which a line fails, in the order in
which they are looked for, together with the expression that was evaluated
before the failure, if the accumulator was reached at all. The list is complete
and its cases exclude each other, so the fault and the accumulator of every
failing line can be read off.
-/

namespace FractionCalculator

/-- A line fails with a fault, after evaluating an expression at its beginning
if any. Every case but the first two presumes that the line does not end in an
operator. -/
inductive Failure (registers : Registers) (line : Text) : Fault → Option Expression → Prop where
  | empty (nothing : line = []) : Failure registers line .empty none
  | operatorAtEnd {operator : Operator} (last : line.getLast? = some operator.symbol) :
      Failure registers line (.endsInOperator line) none
  | blank (nonempty : line ≠ []) (spaces : ∀ char ∈ line, char = ' ') :
      Failure registers line .empty none
  | firstOperand {first : Text} {rest : List Text} {fault : Fault}
      (noOperatorAtEnd : ∀ operator : Operator, line.getLast? ≠ some operator.symbol)
      (split : Text.words line = first :: rest) (refused : Operand.Refused first fault) :
      Failure registers line fault none
  | pair {before : Expression} {rest : List Text} {fault : Fault}
      (noOperatorAtEnd : ∀ operator : Operator, line.getLast? ≠ some operator.symbol)
      (split : Text.words line = before.words ++ rest) (defined : before.IsDefined registers)
      (stuck : Stuck registers rest fault) : Failure registers line fault (some before)

theorem Text.endsInOperator_iff (line : Text) :
    Text.endsInOperator line = true ↔
      ∃ operator : Operator, line.getLast? = some operator.symbol := by
  rw [Text.endsInOperator, Option.isSome_iff_exists]
  refine exists_congr fun operator => ?_
  rw [Option.bind_eq_some_iff]
  constructor
  · rintro ⟨last, ends, found⟩
    rw [ends, (Operator.ofChar?_eq_some_iff last operator).mp found]
  · intro ends
    exact ⟨operator.symbol, ends, Operator.ofChar?_symbol operator⟩

namespace Session

/-- The session with the value of the expression that was evaluated before a
failure, or as it was. -/
def reached (session : Session) : Option Expression → Session
  | none => session
  | some before => ⟨session.registers, .ofRat (before.value session.registers)⟩

variable {session : Session}

/-! ## The words of a line -/

theorem evaluate_eq_evaluateWords {line : Text} (nonempty : line ≠ [])
    (noOperatorAtEnd : ∀ operator : Operator, line.getLast? ≠ some operator.symbol) :
    session.evaluate line = session.evaluateWords line (Text.words line) := by
  have check : ¬ Text.endsInOperator line = true := by
    rw [Text.endsInOperator_iff]
    exact not_exists.mpr noOperatorAtEnd
  rw [evaluate, if_neg nonempty, if_neg check]

theorem evaluateWords_of_refused {first : Text} {fault : Fault}
    (refused : Operand.Refused first fault) (line : Text) (rest : List Text) :
    session.evaluateWords line (first :: rest) = .unchanged session (.error fault) := by
  simp only [evaluateWords, session.registers.operand_of_refused refused]

variable (reduced : session.registers.IsReduced)
include reduced

/-- Once the first operand has a value, a fold decides: adding the value to zero
changes nothing. -/
theorem evaluateWords_text (line : Text) (first : Operand) (rest : List Text) :
    let progress := session.registers.fold (.ofRat (first.value session.registers)) rest
    (session.evaluateWords line (first.text :: rest)).session =
        ⟨session.registers, progress.value⟩ ∧
      (session.evaluateWords line (first.text :: rest)).result =
        match progress.fault with
        | some fault => .error fault
        | none => .ok progress.value := by
  have start := (Fraction.isReduced_ofRat (first.value session.registers)).zero_add_eq
  simp only [evaluateWords, Registers.operand_text reduced, start]
  exact ⟨session_conclude .., result_conclude ..⟩

theorem evaluateWords_words {expression : Expression}
    (defined : expression.IsDefined session.registers) (line : Text) :
    (session.evaluateWords line expression.words).session =
        ⟨session.registers, .ofRat (expression.value session.registers)⟩ ∧
      (session.evaluateWords line expression.words).result =
        .ok (.ofRat (expression.value session.registers)) := by
  have folded := Registers.fold_pairs reduced defined
    (expression.first.value session.registers) []
  have outcome := evaluateWords_text reduced line expression.first
    (expression.pairs.flatMap Pair.words)
  rw [List.append_nil] at folded
  rw [Expression.words, outcome.1, outcome.2, folded.1, folded.2]
  exact ⟨rfl, rfl⟩

theorem evaluateWords_append {expression : Expression}
    (defined : expression.IsDefined session.registers) {rest : List Text} {fault : Fault}
    (stuck : Stuck session.registers rest fault) (line : Text) :
    (session.evaluateWords line (expression.words ++ rest)).session =
        ⟨session.registers, .ofRat (expression.value session.registers)⟩ ∧
      (session.evaluateWords line (expression.words ++ rest)).result = .error fault := by
  have folded := Registers.fold_pairs reduced defined
    (expression.first.value session.registers) rest
  have stopped := Registers.fold_of_stuck reduced stuck
    (expression.value session.registers)
  have outcome := evaluateWords_text reduced line expression.first
    (expression.pairs.flatMap Pair.words ++ rest)
  rw [Expression.value] at stopped
  rw [Expression.words, List.cons_append, outcome.1, outcome.2, folded.1, folded.2,
    stopped.1, stopped.2]
  exact ⟨rfl, rfl⟩

/-! ## The two kinds of lines -/

theorem evaluate_text_append {expression : Expression}
    (defined : expression.IsDefined session.registers) (spaces : Nat) :
    (session.evaluate (expression.text ++ List.replicate spaces ' ')).session =
        ⟨session.registers, .ofRat (expression.value session.registers)⟩ ∧
      (session.evaluate (expression.text ++ List.replicate spaces ' ')).result =
        .ok (.ofRat (expression.value session.registers)) := by
  have split := (expression.words_eq_words_iff _).mpr ⟨spaces, rfl⟩
  have nonempty : expression.text ++ List.replicate spaces ' ' ≠ [] := by
    intro empty
    rw [empty] at split
    exact List.cons_ne_nil _ _ split.symm
  rw [evaluate_eq_evaluateWords nonempty (expression.getLast?_text_append_ne spaces), split]
  exact evaluateWords_words reduced defined _

theorem evaluate_of_failure {line : Text} {fault : Fault} {before : Option Expression}
    (failure : Failure session.registers line fault before) :
    (session.evaluate line).result = .error fault ∧
      (session.evaluate line).session = session.reached before := by
  cases failure with
  | empty nothing =>
      subst nothing
      exact ⟨rfl, rfl⟩
  | @operatorAtEnd operator last =>
      have nonempty : line ≠ [] := by
        rintro rfl
        contradiction
      have check := (Text.endsInOperator_iff line).mpr ⟨operator, last⟩
      rw [evaluate, if_neg nonempty, if_pos check]
      exact ⟨rfl, rfl⟩
  | blank nonempty spaces =>
      have noOperatorAtEnd : ∀ operator : Operator, line.getLast? ≠ some operator.symbol := by
        intro operator last
        exact operator.space_ne_symbol (spaces _ (List.mem_of_getLast? last)).symm
      rw [evaluate_eq_evaluateWords nonempty noOperatorAtEnd,
        (Text.words_eq_nil_iff line).mpr spaces]
      exact ⟨rfl, rfl⟩
  | firstOperand noOperatorAtEnd split refused =>
      have nonempty : line ≠ [] := by
        rintro rfl
        contradiction
      rw [evaluate_eq_evaluateWords nonempty noOperatorAtEnd, split,
        evaluateWords_of_refused refused]
      exact ⟨rfl, rfl⟩
  | @pair before rest fault noOperatorAtEnd split defined stuck =>
      have nonempty : line ≠ [] := by
        rintro rfl
        contradiction
      rw [evaluate_eq_evaluateWords nonempty noOperatorAtEnd, split]
      exact (evaluateWords_append reduced defined stuck line).symm

omit reduced in
/-- Every line writes a defined expression or fails. -/
theorem exists_expression_or_failure (registers : Registers) (line : Text) :
    (∃ expression : Expression, ∃ spaces,
        line = expression.text ++ List.replicate spaces ' ' ∧ expression.IsDefined registers) ∨
      ∃ fault before, Failure registers line fault before := by
  by_cases nothing : line = []
  · exact .inr ⟨_, _, .empty nothing⟩
  by_cases operatorAtEnd : ∃ operator : Operator, line.getLast? = some operator.symbol
  · obtain ⟨operator, last⟩ := operatorAtEnd
    exact .inr ⟨_, _, .operatorAtEnd last⟩
  have noOperatorAtEnd := not_exists.mp operatorAtEnd
  cases split : Text.words line with
  | nil => exact .inr ⟨_, _, .blank nothing ((Text.words_eq_nil_iff line).mp split)⟩
  | cons first rest =>
      rcases Registers.exists_operand_or_refused first with ⟨operand, rfl⟩ | ⟨fault, refused⟩
      · obtain ⟨pairs, tail, rfl, defined, ends⟩ := registers.exists_pairs_append rest
        rcases ends with rfl | ⟨fault, stuck⟩
        · rw [List.append_nil] at split
          obtain ⟨spaces, written⟩ :=
            (Expression.words_eq_words_iff line ⟨operand, pairs⟩).mp split
          exact .inl ⟨⟨operand, pairs⟩, spaces, written, defined⟩
        · exact .inr ⟨fault, some ⟨operand, pairs⟩, .pair noOperatorAtEnd split defined stuck⟩
      · exact .inr ⟨fault, none, .firstOperand noOperatorAtEnd split refused⟩

/-- Exactly the lines that write a defined expression are evaluated, to the
lowest terms of its value; the accumulator takes the value and no register
changes. -/
theorem evaluate_eq_ok_iff (line : Text) :
    (∀ value, (session.evaluate line).result = .ok value ↔
        ∃ expression : Expression, ∃ spaces,
          line = expression.text ++ List.replicate spaces ' ' ∧
            expression.IsDefined session.registers ∧
            value = .ofRat (expression.value session.registers)) ∧
      ∀ value, (session.evaluate line).result = .ok value →
        (session.evaluate line).session = ⟨session.registers, value⟩ := by
  have exact : ∀ value, (session.evaluate line).result = .ok value →
      ∃ expression : Expression, ∃ spaces,
        line = expression.text ++ List.replicate spaces ' ' ∧
          expression.IsDefined session.registers ∧
          value = .ofRat (expression.value session.registers) := by
    intro value evaluated
    rcases exists_expression_or_failure session.registers line with
      ⟨expression, spaces, rfl, defined⟩ | ⟨fault, before, failure⟩
    · rw [(evaluate_text_append reduced defined spaces).2, Except.ok.injEq] at evaluated
      exact ⟨expression, spaces, rfl, defined, evaluated.symm⟩
    · rw [(evaluate_of_failure reduced failure).1] at evaluated
      contradiction
  constructor
  · intro value
    constructor
    · exact exact value
    · rintro ⟨expression, spaces, rfl, defined, rfl⟩
      exact (evaluate_text_append reduced defined spaces).2
  · intro value evaluated
    obtain ⟨expression, spaces, rfl, defined, rfl⟩ := exact value evaluated
    exact (evaluate_text_append reduced defined spaces).1

omit reduced in
/-- Seven thirds in the register c, a literal that is negative and not in lowest
terms, and spaces at the end. -/
theorem evaluate_eq_ok_iff_seven_thirds :
    (Registers.zero.set ⟨2⟩ ⟨7, 3⟩).IsReduced ∧
      (∃ expression : Expression, ∃ spaces,
        "c * -6/4 + 1  ".toList = expression.text ++ List.replicate spaces ' ' ∧
          expression.IsDefined (Registers.zero.set ⟨2⟩ ⟨7, 3⟩) ∧
          ⟨-5, 2⟩ = Fraction.ofRat (expression.value (Registers.zero.set ⟨2⟩ ⟨7, 3⟩))) ∧
      (evaluate ⟨Registers.zero.set ⟨2⟩ ⟨7, 3⟩, 0⟩ "c * -6/4 + 1  ".toList).session =
        ⟨Registers.zero.set ⟨2⟩ ⟨7, 3⟩, ⟨-5, 2⟩⟩ := by
  have reduced : (Registers.zero.set ⟨2⟩ ⟨7, 3⟩).IsReduced :=
    Registers.isReduced_zero.set ⟨2⟩ (by decide)
  have evaluated :
      (evaluate ⟨Registers.zero.set ⟨2⟩ ⟨7, 3⟩, 0⟩ "c * -6/4 + 1  ".toList).result =
        .ok ⟨-5, 2⟩ :=
    rfl
  have exact := @evaluate_eq_ok_iff ⟨Registers.zero.set ⟨2⟩ ⟨7, 3⟩, 0⟩ reduced
    "c * -6/4 + 1  ".toList
  exact ⟨reduced, (exact.1 _).mp evaluated, exact.2 _ evaluated⟩

/-- Exactly the failures that are listed occur, and they leave the registers
alone. The accumulator changes only if a first operand has a value; it then
holds the value of the line up to the failing pair, which would be evaluated if
it stood alone. -/
theorem evaluate_eq_error_iff (line : Text) :
    (∀ fault, (session.evaluate line).result = .error fault ↔
        ∃ before, Failure session.registers line fault before) ∧
      (∀ fault, Failure session.registers line fault none →
        (session.evaluate line).session = session) ∧
      ∀ fault before, Failure session.registers line fault (some before) →
        (session.evaluate line).session =
            ⟨session.registers, .ofRat (before.value session.registers)⟩ ∧
          before.text ++ [' '] <+: line ∧
          (session.evaluate before.text).result =
            .ok (.ofRat (before.value session.registers)) := by
  refine ⟨fun fault => ⟨fun failed => ?_, ?_⟩, ?_, ?_⟩
  · rcases exists_expression_or_failure session.registers line with
      ⟨expression, spaces, rfl, defined⟩ | ⟨actual, before, failure⟩
    · rw [(evaluate_text_append reduced defined spaces).2] at failed
      contradiction
    · rw [(evaluate_of_failure reduced failure).1, Except.error.injEq] at failed
      exact ⟨before, failed ▸ failure⟩
  · rintro ⟨before, failure⟩
    exact (evaluate_of_failure reduced failure).1
  · intro fault failure
    exact (evaluate_of_failure reduced failure).2
  · intro fault before failure
    have left := (evaluate_of_failure reduced failure).2
    cases failure with
    | @pair _ rest _ noOperatorAtEnd split defined stuck =>
        have alone := (evaluate_text_append reduced defined 0).2
        rw [List.replicate_zero, List.append_nil] at alone
        exact ⟨left, before.text_append_space_prefix split stuck.ne_nil, alone⟩

omit reduced in
/-- One half and one third are added before the division by zero is met. -/
theorem evaluate_eq_error_iff_five_sixths :
    Session.fresh.registers.IsReduced ∧
      (∃ before, Failure Session.fresh.registers "1/2 + 1/3 / 0 * 2".toList .divisionByZero
        before) ∧
      (Session.fresh.evaluate "1/2 + 1/3 / 0 * 2".toList).session =
        ⟨Registers.zero, ⟨5, 6⟩⟩ := by
  have reduced : Session.fresh.registers.IsReduced := Registers.isReduced_zero
  have exact := evaluate_eq_error_iff reduced "1/2 + 1/3 / 0 * 2".toList
  exact ⟨reduced, (exact.1 _).mp rfl, rfl⟩

end Session

end FractionCalculator
