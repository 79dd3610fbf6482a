import FractionCalculator.Proofs.Fraction.Literals
import FractionCalculator.Proofs.Session.Congruence
import FractionCalculator.Proofs.Session.Storing

/-!
# Branches that no line takes

Evaluation relies on two agreements between parts that know nothing of each other:
what the scanner takes for a literal is read as a fraction, unless its denominator is
zero, and what it takes for the letter of a register names one. Checked evaluation
tests both for every operand and has an answer of its own for each disagreement. Its
results are those of evaluation, so it never gives these answers.

Nor does evaluation have a fault of reading fractions, naming registers or storing,
and storing has no others than the two of its form.
-/

namespace FractionCalculator

/-- Why checked evaluation has no value. -/
inductive Refusal where
  /-- The line has a fault. -/
  | fault (fault : Fault)
  /-- A word is a literal, and yet it has not the form of a fraction. -/
  | unread (word : Text)
  /-- A letter is the token of a register, and yet it names none. -/
  | unresolved (letter : Char)
deriving DecidableEq, Repr

/-! ## Checked evaluation -/

namespace Checked

/-- The value of a word in operand position. A register is looked up by its
letter. -/
def operand (registers : Registers) (word : Text) : Except Refusal Fraction :=
  match Token.ofWord? word with
  | some (.literal spelling) =>
    match Fraction.ofText spelling with
    | .ok value => .ok value
    | .error .divisionByZero => .error (.fault .divisionByZero)
    | .error _ => .error (.unread word)
  | some (.register register) =>
    match Register.ofChar register.letter with
    | .ok named => .ok (registers.get named)
    | .error _ => .error (.unresolved register.letter)
  | _ => (registers.operand word).mapError .fault

/-- Fold pairs of words into a running value. -/
def fold (registers : Registers) : Fraction → List Text → Except Refusal Fraction
  | value, [] => .ok value
  | _, [word] => .error (.fault (.lacksOperand word))
  | value, operator :: right :: rest => do
    let right ← operand registers right
    let operator ← (Operator.ofWord operator).mapError .fault
    let next ← (operator.apply value right).mapError .fault
    fold registers next rest

/-- Evaluate a line as an expression. -/
def evaluate (session : Session) (line : Text) : Except Refusal Fraction :=
  if line = [] then .error (.fault .empty)
  else if Text.endsInOperator line then .error (.fault (.endsInOperator line))
  else
    match Text.words line with
    | [] => .error (.fault .empty)
    | first :: rest => do
      let value ← operand session.registers first
      fold session.registers (0 + value) rest

variable (registers : Registers)

theorem operand_eq (word : Text) :
    operand registers word = (registers.operand word).mapError .fault := by
  cases found : Token.ofWord? word with
  | none => simp only [operand, found]
  | some token =>
      cases token with
      | literal spelling =>
          simp only [operand, Registers.operand, found]
          cases read : Fraction.ofText spelling with
          | ok value => rfl
          | error fault =>
              obtain rfl := Fraction.eq_divisionByZero_of_literal found read
              rfl
      | register register =>
          simp only [operand, Registers.operand, found, Register.ofChar, Register.ofChar?_letter]
          rfl
      | capital letter => simp only [operand, found]
      | operator operator => simp only [operand, found]

/-- One pair is a step that has a result. -/
theorem fold_cons_cons (value : Fraction) (operator right : Text) (rest : List Text) :
    fold registers value (operator :: right :: rest) =
      match registers.step value operator right with
      | .error fault => .error (.fault fault)
      | .ok step =>
        match step.result with
        | .error fault => .error (.fault fault)
        | .ok next => fold registers next rest := by
  simp only [fold, operand_eq, Registers.step]
  cases registers.operand right with
  | error fault => rfl
  | ok right =>
      cases Operator.ofWord operator with
      | error fault => rfl
      | ok operator =>
          change (operator.apply value right).mapError .fault >>= (fold registers · rest) = _
          simp only [Step.result]
          cases operator.apply value right <;> rfl

theorem fold_eq (value : Fraction) (words : List Text) :
    fold registers value words =
      match (registers.fold value words).fault with
      | some fault => .error (.fault fault)
      | none => .ok (registers.fold value words).value := by
  induction value, words using Registers.fold.induct registers with
  | case1 value => rfl
  | case2 value word => rfl
  | case3 value operator operand rest fault refused =>
      simp only [fold_cons_cons, Registers.fold, refused]
  | case4 value operator operand rest step taken fault failed =>
      simp only [fold_cons_cons, Registers.fold, taken, failed]
  | case5 value operator operand rest step taken next result inductionHypothesis =>
      simp only [fold_cons_cons, Registers.fold, taken, result]
      exact inductionHypothesis

/-- Checked evaluation and evaluation have the same results. -/
theorem evaluate_eq (session : Session) (line : Text) :
    evaluate session line = (session.evaluate line).result.mapError .fault := by
  rw [evaluate, Session.evaluate]
  split
  · rfl
  · split
    · rfl
    · cases Text.words line with
      | nil => rfl
      | cons first rest =>
          simp only [Session.evaluateWords, operand_eq]
          cases session.registers.operand first with
          | error fault => rfl
          | ok value =>
              simp only [Session.result_conclude]
              change fold session.registers (0 + value) rest = _
              rw [fold_eq]
              cases (session.registers.fold (0 + value) rest).fault <;> rfl

/-- A refusal is a fault of the line and nothing else. -/
theorem exists_fault_of_evaluate_eq_error {session : Session} {line : Text} {refusal : Refusal}
    (refused : evaluate session line = .error refusal) : ∃ fault, refusal = .fault fault := by
  rw [evaluate_eq] at refused
  cases found : (session.evaluate line).result with
  | ok value =>
      rw [found] at refused
      contradiction
  | error fault =>
      rw [found] at refused
      exact ⟨fault, (Except.error.inj refused).symm⟩

end Checked

/-! ## The faults that are left -/

theorem Operand.Refused.ofWord?_eq_none {word cited : Text}
    (refused : Operand.Refused word (.notToken cited)) : Token.ofWord? cited = none := by
  cases refused with
  | unrecognized noToken => exact (Token.ofWord?_eq_none_iff _).mpr noToken

theorem Stuck.ofWord?_eq_none {registers : Registers} {words : List Text} {cited : Text}
    (stuck : Stuck registers words (.notToken cited)) : Token.ofWord? cited = none := by
  cases stuck with
  | operand refused => exact refused.ofWord?_eq_none

namespace Session

variable (session : Session) (line : Text)

/-- An evaluation fails over the end of its line or over its words. -/
theorem evaluate_eq_error_cases {fault : Fault}
    (failed : (session.evaluate line).result = .error fault) :
    fault = .endsInOperator line ∨
      (session.evaluateWords line (Text.words line)).result = .error fault := by
  rw [evaluate_eq_ite] at failed
  split at failed
  · exact .inl (Except.error.inj failed).symm
  · exact .inr failed

/-- No evaluation has a fault that belongs to reading, naming or storing. -/
theorem evaluate_ne_error {fault : Fault} (atLine : fault ≠ .endsInOperator line)
    (notOfWords : ¬ fault.IsOfWords) : (session.evaluate line).result ≠ .error fault := by
  intro failed
  rcases session.evaluate_eq_error_cases line failed with same | words
  · exact atLine same
  · exact notOfWords (isOfWords_of_evaluateWords_eq_error words)

theorem ofWord?_eq_none_of_evaluate_eq_error {word : Text}
    (failed : (session.evaluate line).result = .error (.notToken word)) :
    Token.ofWord? word = none := by
  rcases session.evaluate_eq_error_cases line failed with same | words
  · contradiction
  · rcases evaluateWords_eq_error_cases words with
      ⟨-, same⟩ | ⟨first, rest, -, refused⟩ | ⟨before, rest, -, stuck⟩
    · contradiction
    · exact refused.ofWord?_eq_none
    · exact stuck.ofWord?_eq_none

/-- The grammar of literals lies in that of fractions, and the fractions it leaves out
are those with a minus sign after the slash. Therefore evaluation has no fault of
reading fractions, naming registers or storing, not even where it looks registers up
by their letters, and a word that it calls unrecognised is no token. Storing fails
over its form or the name of a register and in no other way. -/
theorem grammars_nest_and_faults_closed :
    (∀ word spelling, Token.ofWord? word = some (.literal spelling) →
        ∀ text, Fraction.ofText spelling ≠ .error (.notFraction text)) ∧
      (∀ text, ((∃ value, Fraction.ofText text = .ok value) ∧
          ∀ spelling, Token.ofWord? text ≠ some (.literal spelling)) ↔
        ∃ above below : Numeral, below.negative = true ∧
          (∃ digit ∈ below.digits, digit ≠ '0') ∧ text = above.text ++ '/' :: below.text) ∧
      ∀ (session : Session) (line : Text),
        (∀ text, (session.evaluate line).result ≠ .error (.notFraction text)) ∧
        (∀ name, (session.evaluate line).result ≠ .error (.notRegister name)) ∧
        (∀ text, (session.evaluate line).result ≠ .error (.notStore text)) ∧
        (∀ word, (session.evaluate line).result = .error (.notToken word) →
          Token.ofWord? word = none) ∧
        Checked.evaluate session line = (session.evaluate line).result.mapError .fault ∧
        (∀ letter, Checked.evaluate session line ≠ .error (.unresolved letter)) ∧
        (∀ word, Checked.evaluate session line ≠ .error (.unread word)) ∧
        (∀ fault, (session.store line).result = .error fault →
          fault = .notStore line ∨ ∃ name, fault = .notRegister name) ∧
        (session.store line).result ≠ .error .divisionByZero := by
  refine ⟨?_, Fraction.ofText_eq_ok_and_ne_literal_iff, fun session line => ⟨?_, ?_, ?_,
    fun word => session.ofWord?_eq_none_of_evaluate_eq_error line,
    Checked.evaluate_eq session line, ?_, ?_,
    fun fault => session.store_eq_error_cases, ?_⟩⟩
  · intro word spelling token text failed
    have division := Fraction.eq_divisionByZero_of_literal token failed
    contradiction
  · exact fun text => session.evaluate_ne_error line (by simp) id
  · exact fun name => session.evaluate_ne_error line (by simp) id
  · exact fun text => session.evaluate_ne_error line (by simp) id
  · intro letter refused
    obtain ⟨fault, same⟩ := Checked.exists_fault_of_evaluate_eq_error refused
    contradiction
  · intro word refused
    obtain ⟨fault, same⟩ := Checked.exists_fault_of_evaluate_eq_error refused
    contradiction
  · intro failed
    rcases session.store_eq_error_cases failed with same | ⟨name, same⟩
    · contradiction
    · contradiction

/-- A fraction with a minus sign after its slash is read and yet no token, and the
zero denominator of a literal is no fault of its form. -/
theorem grammars_nest_and_faults_closed_minus_half :
    Fraction.ofText "1/0".toList ≠ .error (.notFraction "1/0".toList) ∧
      (∃ value, Fraction.ofText "3/-6".toList = .ok value) ∧
      (fresh.evaluate "3/-6".toList).result = .error (.notToken "3/-6".toList) ∧
      Token.ofWord? "3/-6".toList = none ∧
      (fresh.store "STORE C".toList).result = .error (.notRegister 'C') ∧
      Fault.notRegister 'C' ≠ .notStore "STORE C".toList ∧
      ∃ name, Fault.notRegister 'C' = .notRegister name := by
  obtain ⟨reads, beyond, closed⟩ := grammars_nest_and_faults_closed
  obtain ⟨-, -, -, cites, -, -, -, -, -⟩ := closed fresh "3/-6".toList
  obtain ⟨-, -, -, -, -, -, -, stores, -⟩ := closed fresh "STORE C".toList
  let above : Numeral := ⟨false, "3".toList, (Decimal.isDigits_iff_between _).mp rfl⟩
  let below : Numeral := ⟨true, "6".toList, (Decimal.isDigits_iff_between _).mp rfl⟩
  have beyondLiterals := (beyond "3/-6".toList).mpr
    ⟨above, below, rfl, ⟨'6', by decide, by decide⟩, rfl⟩
  have noStore : Fault.notRegister 'C' ≠ .notStore "STORE C".toList := by simp
  exact ⟨reads "1/0".toList _ rfl _, beyondLiterals.1, rfl, cites _ rfl, rfl, noStore,
    (stores _ rfl).resolve_left noStore⟩

end Session

end FractionCalculator
