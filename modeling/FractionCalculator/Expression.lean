import FractionCalculator.Fraction
import FractionCalculator.Text.Basic
import FractionCalculator.Token

/-!
# Expressions

An expression is an operand followed by pairs of an operator and an operand. It
is folded from the left with no precedence: each pair changes the running value
before the next pair is looked at. `fold` keeps the value reached, the steps
taken and the fault that ended the fold early, if any. Within one pair the
operand is read before the operator, and a step counts as taken even when its
division then fails.
-/

namespace FractionCalculator

/-- One step of a fold: the running value, an operator and its right operand. -/
structure Step where
  /-- The running value before the step. -/
  left : Fraction
  /-- The operator. -/
  operator : Operator
  /-- The right operand. -/
  right : Fraction
deriving DecidableEq, Repr

namespace Step

/-- The running value after a step. -/
def result (step : Step) : Except Fault Fraction :=
  step.operator.apply step.left step.right

/-- A step written as an expression of its own. -/
def toText (step : Step) : Text :=
  step.left.toText ++ ' ' :: step.operator.symbol :: ' ' :: step.right.toText

end Step

/-- The operator that a word is. -/
def Operator.ofWord (word : Text) : Except Fault Operator :=
  match Token.ofWord? word with
  | some (.operator operator) => .ok operator
  | _ => .error (.notOperator word)

/-- The value of a word in operand position: a literal writes it and a register
holds it. -/
def Registers.operand (registers : Registers) (word : Text) : Except Fault Fraction :=
  match Token.ofWord? word with
  | some (.literal spelling) =>
    match Fraction.ofText spelling with
    | .ok value => .ok value
    | .error .divisionByZero => .error .divisionByZero
    | .error _ => .error (.notToken word)
  | some (.register register) => .ok (registers.get register)
  | some (.capital letter) => .error (.capitalRegister letter)
  | some (.operator _) => .error (.notOperand word)
  | none => .error (.notToken word)

/-- How far a fold came. -/
structure Progress where
  /-- The running value when the fold ended. -/
  value : Fraction
  /-- The steps in order, the one that failed to divide included. -/
  steps : List Step
  /-- What ended the fold before the last word. -/
  fault : Option Fault
deriving DecidableEq, Repr

/-- One pair of an operator word and an operand word, as a step from a running
value. The operand is read first. -/
def Registers.step (registers : Registers) (value : Fraction) (operator operand : Text) :
    Except Fault Step :=
  match registers.operand operand with
  | .error fault => .error fault
  | .ok right =>
    match Operator.ofWord operator with
    | .error fault => .error fault
    | .ok operator => .ok ⟨value, operator, right⟩

/-- Fold pairs of words into a running value. -/
def Registers.fold (registers : Registers) : Fraction → List Text → Progress
  | value, [] => ⟨value, [], none⟩
  | value, [word] => ⟨value, [], some (.lacksOperand word)⟩
  | value, operator :: operand :: rest =>
    match registers.step value operator operand with
    | .error fault => ⟨value, [], some fault⟩
    | .ok step =>
      match step.result with
      | .error fault => ⟨value, [step], some fault⟩
      | .ok next =>
        let progress := registers.fold next rest
        ⟨progress.value, step :: progress.steps, progress.fault⟩

end FractionCalculator
