import FractionCalculator.Text.Basic

/-!
# Faults

A fault is the cause for which a line is refused, with the part of the line that
shows it. All faults but one count as an invalid expression; division by zero is
told apart, because the line that causes it is well formed.
-/

namespace FractionCalculator

/-- Why a line, a fraction or a register name is refused. -/
inductive Fault where
  /-- The line has no words. -/
  | empty
  /-- The last character of the line is an operator. -/
  | endsInOperator (line : Text)
  /-- The last word stands where an operator needs an operand after it. -/
  | lacksOperand (word : Text)
  /-- A word in operator position is no operator. -/
  | notOperator (word : Text)
  /-- A word in operand position is an operator. -/
  | notOperand (word : Text)
  /-- A register is named by a capital letter. -/
  | capitalRegister (letter : Char)
  /-- A word in operand position is no token at all. -/
  | notToken (word : Text)
  /-- A store line is not two words, the second of one character. -/
  | notStore (line : Text)
  /-- A divisor or a denominator is zero. -/
  | divisionByZero
  /-- A text is not the written form of a fraction. -/
  | notFraction (text : Text)
  /-- A register name is not one of the letters a to z. -/
  | notRegister (name : Char)
deriving DecidableEq, Repr

namespace Fault

/-- The sentence that explains a fault. -/
def message : Fault → Text
  | empty => "Invalid expression: the expression is empty.".toList
  | endsInOperator line =>
    "Invalid expression: '".toList ++ line ++ "' ends with an operator.".toList
  | lacksOperand word =>
    "Invalid expression: operator '".toList ++ word ++ "' has no operand.".toList
  | notOperator word =>
    "Invalid expression: unknown operator '".toList ++ word ++ "'.".toList
  | notOperand word =>
    "Invalid expression: expected an operand but found '".toList ++ word ++ "'.".toList
  | capitalRegister letter =>
    "Invalid expression: register '".toList ++ letter :: "' must be lowercase.".toList
  | notToken word =>
    "Invalid expression: unrecognized token '".toList ++ word ++ "'.".toList
  | notStore line =>
    "Invalid expression: malformed store command '".toList ++ line ++ "'.".toList
  | divisionByZero => "Division by zero.".toList
  | notFraction text => "Invalid fraction format: '".toList ++ text ++ "'.".toList
  | notRegister name =>
    "Register must be a letter from 'a' to 'z', found '".toList ++ name :: "'.".toList

/-- A fault other than division by zero makes the expression invalid. -/
def isInvalid : Fault → Bool
  | divisionByZero => false
  | _ => true

/-- The short text that stands for a fault in an answer. -/
def summary (fault : Fault) : Text :=
  if fault.isInvalid then "Invalid expression".toList
  else "Division by zero".toList

theorem summary_of_isInvalid {fault : Fault} (invalid : fault.isInvalid = true) :
    fault.summary = "Invalid expression".toList :=
  if_pos invalid

/-- A message begins with the summary, unless a text is no fraction or a name no
register: then it says so at once. -/
theorem summary_prefix_message (fault : Fault) :
    fault.summary <+: fault.message ∨ (∃ text, fault = notFraction text) ∨
      ∃ name, fault = notRegister name := by
  cases fault with
  | empty => exact .inl (by decide)
  | divisionByZero => exact .inl (by decide)
  | notFraction text => exact .inr (.inl ⟨text, rfl⟩)
  | notRegister name => exact .inr (.inr ⟨name, rfl⟩)
  | capitalRegister letter =>
      rw [summary_of_isInvalid rfl]
      exact .inl (List.prefix_append_of_prefix (by decide))
  | _ =>
      rw [summary_of_isInvalid rfl]
      exact .inl (List.prefix_append_of_prefix (List.prefix_append_of_prefix (by decide)))

example : (notOperator "%".toList).message =
    "Invalid expression: unknown operator '%'.".toList := by
  decide

example : (notRegister 'A').message =
    "Register must be a letter from 'a' to 'z', found 'A'.".toList := by
  decide

end Fault

end FractionCalculator
