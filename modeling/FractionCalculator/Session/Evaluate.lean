import FractionCalculator.Session.Basic

/-!
# Evaluating a line

A line without characters or with an operator as its last character is refused
before it is split into words. Then the first word is resolved; only after that
does the accumulator change. It is set to zero, the first operand is added, and
the other words are folded into it. A fold that fails part of the way leaves the
value it had reached.
-/

namespace FractionCalculator

/-- The last character of a line is an operator. -/
def Text.endsInOperator (line : Text) : Bool :=
  (line.getLast?.bind Operator.ofChar?).isSome

namespace Session

/-- The report on a line whose words were folded as far as `progress` says. -/
def conclude (session : Session) (line : Text) (progress : Progress) : Report Fraction :=
  let after : Session := ⟨session.registers, progress.value⟩
  let steps := progress.steps.map Record.step
  match progress.fault with
  | some fault => ⟨.error fault, after, steps⟩
  | none => ⟨.ok progress.value, after, steps ++ [.value line progress.value]⟩

/-- The accumulator keeps the value that a fold reached, also when it failed. -/
@[simp]
theorem session_conclude (session : Session) (line : Text) (progress : Progress) :
    (session.conclude line progress).session = ⟨session.registers, progress.value⟩ := by
  simp only [conclude]
  split <;> rfl

@[simp]
theorem result_conclude (session : Session) (line : Text) (progress : Progress) :
    (session.conclude line progress).result =
      match progress.fault with
      | some fault => .error fault
      | none => .ok progress.value := by
  simp only [conclude]
  split <;> rfl

/-- The steps of the fold are logged, and after them the value if there is one. -/
@[simp]
theorem log_conclude (session : Session) (line : Text) (progress : Progress) :
    (session.conclude line progress).log =
      progress.steps.map Record.step ++
        match progress.fault with
        | some _ => []
        | none => [.value line progress.value] := by
  simp only [conclude]
  split
  · rw [List.append_nil]
  · rfl

/-- Evaluate the words of a line. -/
def evaluateWords (session : Session) (line : Text) : List Text → Report Fraction
  | [] => .unchanged session (.error .empty)
  | first :: rest =>
    match session.registers.operand first with
    | .error fault => .unchanged session (.error fault)
    | .ok value => session.conclude line (session.registers.fold (0 + value) rest)

/-- Evaluating words changes no register. -/
@[simp]
theorem registers_evaluateWords (session : Session) (line : Text) (words : List Text) :
    (session.evaluateWords line words).session.registers = session.registers := by
  cases words with
  | nil => rfl
  | cons first rest =>
    simp only [evaluateWords]
    split
    · rfl
    · simp

/-- Evaluate a line as an expression. -/
def evaluate (session : Session) (line : Text) : Report Fraction :=
  if line = [] then .unchanged session (.error .empty)
  else if Text.endsInOperator line then .unchanged session (.error (.endsInOperator line))
  else session.evaluateWords line (Text.words line)

@[simp]
theorem registers_evaluate (session : Session) (line : Text) :
    (session.evaluate line).session.registers = session.registers := by
  unfold evaluate
  split
  · rfl
  · split
    · rfl
    · exact registers_evaluateWords session line _

end Session

/-- The value of an expression in a fresh session. -/
def evaluate (line : Text) : Except Fault Fraction :=
  (Session.fresh.evaluate line).result

end FractionCalculator
