import FractionCalculator.Proofs.Expression.Computation
import FractionCalculator.Proofs.Session.Evaluation

/-!
# What the answer to a line depends on

Evaluation looks at the last character of a line and after that only at its
words. The faults of words name single words, so of all faults of an expression
only the one of ending in an operator shows which line was evaluated. Two lines
are therefore answered alike, up to this fault, if both or neither end in an
operator and their words have the same result.
-/

namespace FractionCalculator

/-! ## Faults of words -/

namespace Fault

/-- The faults that an expression can have beyond the check of its last
character. -/
def IsOfWords : Fault → Prop
  | endsInOperator _ | notStore _ | notFraction _ | notRegister _ => False
  | _ => True

/-- What a fault of an expression becomes if the expression is written as another
line. -/
def onLine (line : Text) : Fault → Fault
  | endsInOperator _ => endsInOperator line
  | fault => fault

theorem IsOfWords.onLine_eq {fault : Fault} (ofWords : fault.IsOfWords) (line : Text) :
    fault.onLine line = fault := by
  cases fault with
  | endsInOperator other => exact ofWords.elim
  | _ => rfl

end Fault

theorem Operand.Refused.isOfWords {word : Text} {fault : Fault}
    (refused : Operand.Refused word fault) : fault.IsOfWords := by
  cases refused <;> trivial

theorem Stuck.isOfWords {registers : Registers} {words : List Text} {fault : Fault}
    (stuck : Stuck registers words fault) : fault.IsOfWords := by
  cases stuck with
  | operand refused => exact refused.isOfWords
  | _ => trivial

/-! ## Lines with the same result -/

/-- Of a line in two parts, only the second one decides. -/
theorem Text.endsInOperator_append (before : Text) {after : Text} (nonempty : after ≠ []) :
    Text.endsInOperator (before ++ after) = Text.endsInOperator after := by
  rw [Text.endsInOperator, List.getLast?_append_of_ne_nil before nonempty, Text.endsInOperator]

/-- A line starts to be evaluated: it passes the two checks, and its first word
has a value. -/
structure Registers.Starts (registers : Registers) (line : Text) : Prop where
  nonempty : line ≠ []
  noOperatorAtEnd : ∀ operator : Operator, line.getLast? ≠ some operator.symbol
  resolves : ∃ first rest value,
    Text.words line = first :: rest ∧ registers.operand first = .ok value

namespace Session

/-- A line that does not start to be evaluated has the same fault in every session
and changes none. -/
theorem exists_fault_of_not_starts {registers : Registers} {line : Text}
    (notStarted : ¬ registers.Starts line) :
    ∃ fault, ∀ session : Session, session.evaluate line = .unchanged session (.error fault) := by
  by_cases nonempty : line = []
  · exact ⟨_, fun session => by rw [evaluate, if_pos nonempty]⟩
  by_cases operatorAtEnd : Text.endsInOperator line = true
  · exact ⟨_, fun session => by rw [evaluate, if_neg nonempty, if_pos operatorAtEnd]⟩
  have noOperatorAtEnd := not_exists.mp (mt (Text.endsInOperator_iff line).mpr operatorAtEnd)
  cases split : Text.words line with
  | nil =>
      exact ⟨.empty, fun session => by
        rw [evaluate_eq_evaluateWords nonempty noOperatorAtEnd, split, evaluateWords]⟩
  | cons first rest =>
      rcases Registers.exists_operand_or_refused first with ⟨operand, rfl⟩ | ⟨fault, refused⟩
      · have resolved := registers.operand_text_eq operand
        exact absurd ⟨nonempty, noOperatorAtEnd, _, rest, _, split, resolved⟩ notStarted
      · exact ⟨fault, fun session => by
          rw [evaluate_eq_evaluateWords nonempty noOperatorAtEnd, split,
            evaluateWords_of_refused refused]⟩

theorem evaluateWords_text_eq (session : Session) (line : Text) (first : Operand)
    (rest : List Text) :
    session.evaluateWords line (first.text :: rest) =
      session.conclude line
        (session.registers.fold (0 + first.fraction session.registers) rest) := by
  simp only [evaluateWords, session.registers.operand_text_eq]

variable {session other : Session}

/-- Words fail to be evaluated if there are none, if the first of them is refused or
if the fold of the others gets stuck. -/
theorem evaluateWords_eq_error_cases {line : Text} {words : List Text} {fault : Fault}
    (failed : (session.evaluateWords line words).result = .error fault) :
    (words = [] ∧ fault = .empty) ∨
      (∃ first rest, words = first :: rest ∧ Operand.Refused first fault) ∨
      ∃ before rest, words = before ++ rest ∧ Stuck session.registers rest fault := by
  cases words with
  | nil =>
      cases failed
      exact .inl ⟨rfl, rfl⟩
  | cons first rest =>
      rcases Registers.exists_operand_or_refused first with ⟨operand, rfl⟩ | ⟨refusal, refused⟩
      · rw [evaluateWords_text_eq, result_conclude] at failed
        split at failed
        · rename_i ended
          cases failed
          obtain ⟨before, tail, rfl, stuck⟩ := Registers.exists_stuck_of_fault_fold ended
          exact .inr (.inr ⟨operand.text :: before, tail, rfl, stuck⟩)
        · contradiction
      · rw [evaluateWords_of_refused refused] at failed
        cases failed
        exact .inr (.inl ⟨first, rest, rfl, refused⟩)

theorem isOfWords_of_evaluateWords_eq_error {line : Text} {words : List Text} {fault : Fault}
    (failed : (session.evaluateWords line words).result = .error fault) : fault.IsOfWords := by
  rcases evaluateWords_eq_error_cases failed with
    ⟨-, rfl⟩ | ⟨first, rest, -, refused⟩ | ⟨before, rest, -, stuck⟩
  · trivial
  · exact refused.isOfWords
  · exact stuck.isOfWords

/-- Only one of the two checks matters: a line without characters has no words. -/
theorem evaluate_eq_ite (session : Session) (line : Text) :
    session.evaluate line =
      if Text.endsInOperator line then .unchanged session (.error (.endsInOperator line))
      else session.evaluateWords line (Text.words line) := by
  unfold evaluate
  split
  · rename_i empty
    subst empty
    rfl
  · rfl

/-- Words with the same result in lines that end alike have it on either line. -/
theorem result_evaluate_eq_mapError {line otherLine : Text}
    (ends : Text.endsInOperator otherLine = Text.endsInOperator line)
    (same : (other.evaluateWords otherLine (Text.words otherLine)).result =
      (session.evaluateWords line (Text.words line)).result) :
    (other.evaluate otherLine).result =
      (session.evaluate line).result.mapError (Fault.onLine otherLine) := by
  rw [evaluate_eq_ite, evaluate_eq_ite, ends]
  by_cases operatorAtEnd : Text.endsInOperator line = true
  · rw [if_pos operatorAtEnd, if_pos operatorAtEnd]
    rfl
  · rw [if_neg operatorAtEnd, if_neg operatorAtEnd, same]
    cases found : (session.evaluateWords line (Text.words line)).result with
    | ok value => rfl
    | error fault =>
        have ofWords := isOfWords_of_evaluateWords_eq_error found
        rw [Except.mapError, ofWords.onLine_eq]

/-- So it is with the accumulators, unless the lines end in an operator. -/
theorem accumulator_evaluate_eq {line otherLine : Text}
    (ends : Text.endsInOperator otherLine = Text.endsInOperator line)
    (same : (other.evaluateWords otherLine (Text.words otherLine)).session.accumulator =
      (session.evaluateWords line (Text.words line)).session.accumulator)
    (notAtEnd : ∀ named, (session.evaluate line).result ≠ .error (.endsInOperator named)) :
    (other.evaluate otherLine).session.accumulator =
      (session.evaluate line).session.accumulator := by
  rw [evaluate_eq_ite] at notAtEnd ⊢
  rw [evaluate_eq_ite, ends]
  by_cases operatorAtEnd : Text.endsInOperator line = true
  · rw [if_pos operatorAtEnd] at notAtEnd
    exact absurd rfl (notAtEnd line)
  · rw [if_neg operatorAtEnd, if_neg operatorAtEnd, same]

end Session

end FractionCalculator
