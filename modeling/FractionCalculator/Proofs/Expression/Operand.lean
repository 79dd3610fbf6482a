import FractionCalculator.Expression
import FractionCalculator.Proofs.Fraction.Rational
import FractionCalculator.Proofs.Token.Spelling

/-!
# Words in operand and operator position

An operand is a literal that does not divide by zero, or a register letter; its
value is a rational number. Every other word is refused in operand position, and
`Refused` says with which fault. The two are exact: a word has a value when it
writes an operand and is refused otherwise, whatever the registers hold.
-/

namespace FractionCalculator

/-- A word with a value. -/
inductive Operand where
  | literal (literal : Literal) (defined : ¬ literal.DividesByZero)
  | register (register : Register)

namespace Operand

/-- The word that writes an operand. -/
def text : Operand → Text
  | literal spelled _ => spelled.text
  | register named => [named.letter]

/-- The number that an operand stands for. -/
def value (registers : Registers) : Operand → ℚ
  | literal spelled _ => spelled.num / spelled.den
  | register named => (registers.get named).toRat

/-- The words without a value in operand position, each with its fault. -/
inductive Refused : Text → Fault → Prop where
  | zeroDenominator {literal : Literal} (zero : literal.DividesByZero) :
      Refused literal.text .divisionByZero
  | capital {letter : Char} (upper : letter.isUpper = true) :
      Refused [letter] (.capitalRegister letter)
  | operator (operator : Operator) : Refused [operator.symbol] (.notOperand [operator.symbol])
  | unrecognized {word : Text} (noToken : ∀ token : Token, ¬ token.Spells word) :
      Refused word (.notToken word)

end Operand

namespace Registers

variable (registers : Registers)

/-- A literal is worth the quotient of its sides, whatever the registers hold. -/
theorem operand_literal (literal : Literal) :
    registers.operand literal.text =
      if literal.den = 0 then .error .divisionByZero
      else .ok (.ofRat (literal.num / literal.den)) := by
  have token : Token.ofWord? literal.text = some (.literal literal.text) :=
    (Token.ofWord?_eq_some_iff_spells _ _).mpr (.literal literal)
  have sides := Fraction.ofInts_eq literal.num literal.den
  simp only [operand, token, literal.ofText_text, sides]
  by_cases zero : literal.den = 0 <;> simp [zero]

theorem operand_register (register : Register) :
    registers.operand [register.letter] = .ok (registers.get register) := by
  have token : Token.ofWord? [register.letter] = some (.register register) :=
    (Token.ofWord?_eq_some_iff_spells _ _).mpr (.register register)
  simp only [operand, token]

theorem operand_of_refused {word : Text} {fault : Fault} (refused : Operand.Refused word fault) :
    registers.operand word = .error fault := by
  cases refused with
  | @zeroDenominator literal zero =>
      rw [operand_literal, if_pos (literal.den_eq_zero_iff.mpr zero)]
  | capital upper =>
      have token := (Token.ofWord?_eq_some_iff_spells _ _).mpr (.capital upper)
      simp only [operand, token]
  | operator operator =>
      have token := (Token.ofWord?_eq_some_iff_spells _ _).mpr (.operator operator)
      simp only [operand, token]
  | unrecognized noToken =>
      simp only [operand, (Token.ofWord?_eq_none_iff word).mpr noToken]

variable {registers}

/-- The word of an operand is resolved to the lowest terms of its value. -/
theorem operand_text (reduced : registers.IsReduced) (operand : Operand) :
    registers.operand operand.text = .ok (.ofRat (operand.value registers)) := by
  cases operand with
  | literal literal defined =>
      rw [Operand.text, Operand.value, operand_literal,
        if_neg (mt literal.den_eq_zero_iff.mp defined)]
  | register register =>
      rw [Operand.text, Operand.value, operand_register, (reduced register).ofRat_toRat]

/-- Every word writes an operand or is refused. -/
theorem exists_operand_or_refused (word : Text) :
    (∃ operand : Operand, operand.text = word) ∨ ∃ fault, Operand.Refused word fault := by
  cases found : Token.ofWord? word with
  | none => exact .inr ⟨_, .unrecognized ((Token.ofWord?_eq_none_iff word).mp found)⟩
  | some token =>
      cases (Token.ofWord?_eq_some_iff_spells word token).mp found with
      | literal literal =>
          by_cases zero : literal.DividesByZero
          · exact .inr ⟨_, .zeroDenominator zero⟩
          · exact .inl ⟨.literal literal zero, rfl⟩
      | register register => exact .inl ⟨.register register, rfl⟩
      | capital upper => exact .inr ⟨_, .capital upper⟩
      | operator operator => exact .inr ⟨_, .operator operator⟩

/-- A word with a value in operand position writes an operand. -/
theorem exists_operand_of_eq_ok {word : Text} {value : Fraction}
    (found : registers.operand word = .ok value) : ∃ operand : Operand, operand.text = word := by
  rcases exists_operand_or_refused word with writes | ⟨fault, refused⟩
  · exact writes
  · rw [registers.operand_of_refused refused] at found
    contradiction

end Registers

namespace Operator

theorem ofWord_symbol (operator : Operator) : ofWord [operator.symbol] = .ok operator := by
  have token := (Token.ofWord?_eq_some_iff_spells _ _).mpr (.operator operator)
  simp only [ofWord, token]

theorem ofWord_of_ne {word : Text} (noSymbol : ∀ operator : Operator, word ≠ [operator.symbol]) :
    ofWord word = .error (.notOperator word) := by
  unfold ofWord
  split
  · rename_i operator found
    cases (Token.ofWord?_eq_some_iff_spells word (.operator operator)).mp found
    exact absurd rfl (noSymbol operator)
  · rfl

end Operator

end FractionCalculator
