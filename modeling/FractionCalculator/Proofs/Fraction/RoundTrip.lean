import FractionCalculator.Proofs.Decimal.Canonical
import FractionCalculator.Proofs.Session.Evaluation
import FractionCalculator.Proofs.Session.LowestTerms

/-!
# Writing and reading fractions are inverse

A fraction in lowest terms is written as a literal, from which a reader gets it
back: the fraction reader and the evaluator of lines alike. Of the many
spellings of a fraction that can be read, it is written in exactly one, the
canonical spelling. `Literal.IsCanonical` says which literals that are, in terms
of their digits.
-/

namespace FractionCalculator

/-! ## Canonical spellings -/

namespace Literal

/-- No spelling of the same fraction is shorter: there is no leading zero, and
neither a denominator nor a common factor that could be left out. -/
structure IsCanonical (literal : Literal) : Prop where
  /-- The integer before the slash is an unsigned zero, or its digits begin with
  no zero. -/
  above : (literal.above = ['0'] ∧ literal.negative = false) ∨ literal.above.head? ≠ some '0'
  /-- So do the digits after a slash, and their value is at least two and shares
  no factor with the integer before it. -/
  below : ∀ digits ∈ literal.below,
    digits.head? ≠ some '0' ∧ 2 ≤ literal.den ∧ literal.num.natAbs.Coprime literal.den

variable {literal : Literal} (canonical : literal.IsCanonical)
include canonical

/-- The integer before the slash is written as it is spelled. -/
theorem IsCanonical.write_num : Decimal.write literal.num = literal.upper := by
  rcases canonical.above with ⟨zero, unsigned⟩ | noZero
  · simp only [num, upper, zero, unsigned]
    rfl
  · have positive := Decimal.ofDigitChars_pos literal.isDigits_above noZero
    have written := Decimal.writeNat_ofDigitChars literal.isDigits_above noZero
    by_cases sign : literal.negative = true
    · have negative : -(Nat.ofDigitChars 10 literal.above 0 : Int) < 0 := by omega
      rw [num, upper, if_pos sign, if_pos sign, Decimal.write, if_pos negative, Int.natAbs_neg,
        Int.natAbs_natCast, written]
    · have nonnegative : ¬ (Nat.ofDigitChars 10 literal.above 0 : Int) < 0 := by omega
      rw [num, upper, if_neg sign, if_neg sign, Decimal.write, if_neg nonnegative,
        Int.natAbs_natCast, written]

theorem IsCanonical.isReduced : (⟨literal.num, literal.den⟩ : Fraction).IsReduced := by
  cases found : literal.below with
  | none =>
      have one : literal.den = 1 := by rw [den, found]
      simp [Fraction.IsReduced, one]
  | some digits =>
      obtain ⟨-, large, coprime⟩ := canonical.below digits found
      exact ⟨Nat.lt_of_lt_of_le (by decide) large, coprime⟩

/-- The fraction of the sides of a canonical literal is written as the literal. -/
theorem IsCanonical.toText_eq : (⟨literal.num, literal.den⟩ : Fraction).toText = literal.text := by
  rw [text_eq, ← canonical.write_num]
  cases found : literal.below with
  | none =>
      have one : literal.den = 1 := by rw [den, found]
      simp [Fraction.toText, Fraction.isInteger, one]
  | some digits =>
      obtain ⟨noZero, large, -⟩ := canonical.below digits found
      have written : Decimal.writeNat literal.den = digits := by
        rw [den, found]
        exact Decimal.writeNat_ofDigitChars (literal.isDigits_below digits found) noZero
      have notOne : literal.den ≠ 1 := by omega
      simp [Fraction.toText, Fraction.isInteger, notOne, written]

end Literal

/-! ## The literal of a fraction -/

namespace Fraction

/-- The literal that a fraction is written as. -/
def literal (value : Fraction) : Literal where
  negative := decide (value.num < 0)
  above := Decimal.writeNat value.num.natAbs
  below := if value.isInteger then none else some (Decimal.writeNat value.den)
  above_spelled := Decimal.writeNat_spelled _
  below_spelled := by
    intro digits member
    split at member
    · contradiction
    · cases member
      exact Decimal.writeNat_spelled _

variable (value : Fraction)

theorem text_literal : value.literal.text = value.toText := by
  have upper : value.literal.upper = Decimal.write value.num := by
    by_cases negative : value.num < 0 <;> simp [literal, Literal.upper, Decimal.write, negative]
  rw [Literal.text_eq, upper, toText]
  by_cases whole : value.isInteger = true <;> simp [literal, whole]

theorem num_literal : value.literal.num = value.num := by
  have magnitude : Nat.ofDigitChars 10 value.literal.above 0 = value.num.natAbs :=
    Nat.ofDigitChars_ten_toDigits
  by_cases negative : value.num < 0
  · have sign : value.literal.negative = true := decide_eq_true negative
    rw [Literal.num, if_pos sign, magnitude]
    omega
  · have sign : ¬ value.literal.negative = true := mt of_decide_eq_true negative
    rw [Literal.num, if_neg sign, magnitude]
    omega

theorem den_literal : value.literal.den = value.den := by
  by_cases whole : value.isInteger = true
  · have one : value.den = 1 := by simpa [isInteger] using whole
    simp [Literal.den, literal, whole, one]
  · simp [Literal.den, literal, whole, Decimal.writeNat, Nat.ofDigitChars_ten_toDigits]

variable {value} (reduced : value.IsReduced)
include reduced

theorem IsReduced.isCanonical_literal : value.literal.IsCanonical where
  above := by
    by_cases zero : value.num = 0
    · exact .inl (by simp [literal, zero, Decimal.writeNat])
    · exact .inr (Decimal.head?_writeNat_ne (Int.natAbs_pos.mpr zero))
  below := by
    intro digits member
    rw [num_literal, den_literal]
    by_cases whole : value.isInteger = true
    · simp [literal, whole] at member
    · simp only [literal, whole, Bool.false_eq_true, if_false, Option.mem_def,
        Option.some.injEq] at member
      subst member
      have positive := reduced.1
      have notOne : value.den ≠ 1 := by simpa [isInteger] using whole
      exact ⟨Decimal.head?_writeNat_ne positive, by omega, reduced.2⟩

/-- The sides of a fraction in lowest terms give the fraction back. -/
theorem IsReduced.ofInts_eq : ofInts value.num value.den = .ok value := by
  have nonzero : (value.den : Int) ≠ 0 := by
    have := reduced.1
    omega
  have quotient : (value.num : ℚ) / ((value.den : Int) : ℚ) = value.toRat := by
    rw [Int.cast_natCast, toRat]
  rw [Fraction.ofInts_eq, if_neg nonzero, quotient, reduced.ofRat_toRat]

/-- Reading undoes writing. -/
theorem IsReduced.ofText_toText : ofText value.toText = .ok value := by
  rw [← text_literal, Literal.ofText_text, num_literal, den_literal, reduced.ofInts_eq]

end Fraction

/-- A literal that does not divide by zero is a line of its own, with the same
value in every session. -/
theorem Session.result_evaluate_literal (session : Session) {literal : Literal}
    (defined : ¬ literal.DividesByZero) :
    (session.evaluate literal.text).result =
      .ok (.ofRat (literal.num / literal.den)) := by
  let expression : Expression := ⟨.literal literal defined, []⟩
  have line : literal.text = expression.text ++ List.replicate 0 ' ' := by
    simp [expression, Expression.text, Operand.text]
  have split : Text.words literal.text = [literal.text] :=
    (expression.words_eq_words_iff _).mpr ⟨0, line⟩
  have nonempty : literal.text ≠ [] := by
    intro empty
    rw [empty] at split
    contradiction
  have noOperatorAtEnd := expression.getLast?_text_append_ne 0
  rw [← line] at noOperatorAtEnd
  have start := (Fraction.isReduced_ofRat (literal.num / literal.den)).zero_add_eq
  rw [evaluate_eq_evaluateWords nonempty noOperatorAtEnd, split]
  simp only [evaluateWords, Registers.operand_literal,
    if_neg (mt literal.den_eq_zero_iff.mp defined), start, result_conclude, Registers.fold]

namespace Fraction

/-- A line that writes a fraction in lowest terms evaluates to it. -/
theorem IsReduced.result_evaluate_toText {value : Fraction} (reduced : value.IsReduced)
    (session : Session) : (session.evaluate value.toText).result = .ok value := by
  have defined : ¬ value.literal.DividesByZero := by
    rw [← Literal.den_eq_zero_iff, den_literal]
    exact reduced.1.ne'
  rw [← text_literal, session.result_evaluate_literal defined, num_literal, den_literal]
  exact congrArg Except.ok reduced.ofRat_toRat

/-- A text is the written form of the fraction it is read as exactly when it is
a canonical spelling. -/
theorem toText_eq_iff_of_ofText {text : Text} {value : Fraction}
    (read : ofText text = .ok value) :
    value.toText = text ↔ ∃ literal : Literal, literal.text = text ∧ literal.IsCanonical := by
  constructor
  · rintro rfl
    exact ⟨value.literal, text_literal value, (isReduced_of_ofText_eq_ok read).isCanonical_literal⟩
  · rintro ⟨literal, rfl, canonical⟩
    rw [literal.ofText_text, canonical.isReduced.ofInts_eq, Except.ok.injEq] at read
    rw [← read, canonical.toText_eq]

/-- Writing and reading are inverse: every fraction in lowest terms is read back
from its written form, as a fraction, as a single token and as a line, and the
written form of what is read is the text itself exactly for canonical
spellings. -/
theorem read_write_inverse :
    (∀ value : Fraction, value.IsReduced →
      ofText value.toText = .ok value ∧
        Token.ofWord? value.toText = some (.literal value.toText) ∧
        ∀ session : Session, (session.evaluate value.toText).result = .ok value) ∧
      ∀ text value, ofText text = .ok value →
        (value.toText = text ↔
          ∃ literal : Literal, literal.text = text ∧ literal.IsCanonical) := by
  refine ⟨fun value reduced => ⟨reduced.ofText_toText, ?_, reduced.result_evaluate_toText⟩,
    fun text value read => toText_eq_iff_of_ofText read⟩
  rw [Token.ofWord?_eq_some_iff_spells, ← text_literal]
  exact .literal value.literal

/-- Minus seven thirds, and a spelling of it that is not canonical for three
reasons. -/
theorem read_write_inverse_seven_thirds :
    (⟨-7, 3⟩ : Fraction).IsReduced ∧
      (Session.fresh.evaluate "-7/3".toList).result = .ok ⟨-7, 3⟩ ∧
      ofText "-014/6".toList = .ok ⟨-7, 3⟩ ∧
      ¬ ∃ literal : Literal, literal.text = "-014/6".toList ∧ literal.IsCanonical := by
  have reduced : (⟨-7, 3⟩ : Fraction).IsReduced := by decide
  have read : ofText "-014/6".toList = .ok ⟨-7, 3⟩ := rfl
  obtain ⟨readBack, canonical⟩ := read_write_inverse
  refine ⟨reduced, (readBack _ reduced).2.2 Session.fresh, read, ?_⟩
  rw [← canonical _ _ read]
  decide

end Fraction

end FractionCalculator
