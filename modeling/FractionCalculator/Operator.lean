import FractionCalculator.Fraction

/-!
# Operators

The four operators and what each does to two fractions. There is no precedence:
an operator is applied as soon as its right operand is known. Only a division
can fail, and only by a zero divisor.
-/

namespace FractionCalculator

/-- One of the four arithmetic operators. -/
inductive Operator where
  /-- Addition, written `+`. -/
  | add
  /-- Subtraction, written `-`. -/
  | sub
  /-- Multiplication, written `*`. -/
  | mul
  /-- Division, written `/`. -/
  | div
deriving DecidableEq, Repr

namespace Operator

/-- The character that writes an operator. -/
def symbol : Operator → Char
  | add => '+'
  | sub => '-'
  | mul => '*'
  | div => '/'

/-- The operator that a character writes. -/
def ofChar? : Char → Option Operator
  | '+' => some add
  | '-' => some sub
  | '*' => some mul
  | '/' => some div
  | _ => none

theorem ofChar?_eq_some_iff (char : Char) (operator : Operator) :
    ofChar? char = some operator ↔ char = operator.symbol := by
  constructor
  · intro found
    unfold ofChar? at found
    split at found <;> cases found <;> rfl
  · rintro rfl
    cases operator <;> rfl

@[simp]
theorem ofChar?_symbol (operator : Operator) :
    ofChar? operator.symbol = some operator :=
  (ofChar?_eq_some_iff _ _).mpr rfl

/-- The value of `left operator right`. -/
def apply (operator : Operator) (left right : Fraction) : Except Fault Fraction :=
  match operator with
  | add => .ok (left + right)
  | sub => .ok (left - right)
  | mul => .ok (left * right)
  | div => left.div right

/-- The only fault of an operator is a division by a zero fraction. -/
theorem apply_eq_error_iff (operator : Operator) (left right : Fraction) (fault : Fault) :
    operator.apply left right = .error fault ↔
      operator = div ∧ right.num = 0 ∧ fault = .divisionByZero := by
  cases operator with
  | add => simp [apply]
  | sub => simp [apply]
  | mul => simp [apply]
  | div =>
    rw [← Fraction.div?_eq_none_iff left right]
    cases found : left.div? right with
    | none => simp [apply, Fraction.div, found, eq_comm]
    | some value => simp [apply, Fraction.div, found]

/-- Operators keep fractions in lowest terms. -/
theorem isReduced_of_apply_eq_ok {operator : Operator} {left right value : Fraction}
    (first : left.IsReduced) (second : right.IsReduced)
    (applied : operator.apply left right = .ok value) : value.IsReduced := by
  cases operator with
  | add =>
    cases applied
    exact Fraction.isReduced_add first second
  | sub =>
    cases applied
    exact Fraction.isReduced_sub first second
  | mul =>
    cases applied
    exact Fraction.isReduced_mul first second
  | div =>
    simp only [apply, Fraction.div] at applied
    split at applied
    · rename_i found
      cases applied
      exact Fraction.isReduced_of_div?_eq_some first found
    · cases applied

end Operator

end FractionCalculator
