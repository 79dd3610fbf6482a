import FractionCalculator.Session.Evaluate

/-!
# Executing a line

A line is executed as the instruction that it is. Storing wants two words, the
second of a single character that names a register, and leaves the first word
unread. A line that fails is noted in the log after whatever it logged before.
-/

namespace FractionCalculator

/-- What an executed line answers. -/
inductive Answer where
  /-- The value of an expression. -/
  | value (result : Fraction)
  /-- The register that was written. -/
  | stored (register : Register)
deriving DecidableEq, Repr

/-- A report with the failure of its line noted after what it logged before. -/
def Report.noted (report : Report Answer) (line : Text) : Report Answer :=
  match report.result with
  | .ok _ => report
  | .error fault =>
    { report with log := report.log ++ [.failure (Instruction.ofLine line) line fault] }

namespace Session

/-- Copy the accumulator into the register that the second of two words names. -/
def store (session : Session) (line : Text) : Report Register :=
  match Text.words line with
  | [_, [name]] =>
    match Register.ofChar name with
    | .error fault => .unchanged session (.error fault)
    | .ok register =>
      ⟨.ok register, ⟨session.registers.set register session.accumulator, session.accumulator⟩,
        [.stored session.accumulator register]⟩
  | _ => .unchanged session (.error (.notStore line))

/-- Carry out the instruction of a line. -/
def perform (session : Session) (line : Text) : Report Answer :=
  match Instruction.ofLine line with
  | .store => (session.store line).map .stored
  | .evaluate => (session.evaluate line).map .value

/-- Carry out the instruction of a line and note its failure. -/
def execute (session : Session) (line : Text) : Report Answer :=
  (session.perform line).noted line

@[simp]
theorem session_execute (session : Session) (line : Text) :
    (session.execute line).session = (session.perform line).session := by
  simp only [execute, Report.noted]
  split <;> rfl

@[simp]
theorem result_execute (session : Session) (line : Text) :
    (session.execute line).result = (session.perform line).result := by
  simp only [execute, Report.noted]
  split <;> rfl

end Session

end FractionCalculator
