import FractionCalculator.Operator
import Mathlib.Data.Int.CharZero
import Mathlib.Data.Nat.Cast.Field
import Mathlib.Data.Rat.Lemmas
import Mathlib.Tactic.FieldSimp
import Mathlib.Tactic.Ring

/-!
# Fractions as rational numbers

A fraction denotes the quotient of its two sides, and every rational number has
exactly one fraction in lowest terms. On such fractions the operations of the
calculator are those of the field of rational numbers: nothing is rounded and
nothing overflows. Division and construction fail exactly where the quotient is
undefined.
-/

namespace FractionCalculator

namespace Fraction

/-- The rational number that a fraction denotes. -/
def toRat (fraction : Fraction) : ℚ :=
  fraction.num / fraction.den

/-- The lowest terms of a rational number. -/
def ofRat (value : ℚ) : Fraction :=
  ⟨value.num, value.den⟩

theorem isReduced_ofRat (value : ℚ) : (ofRat value).IsReduced :=
  ⟨value.den_pos, value.reduced⟩

@[simp]
theorem toRat_ofRat (value : ℚ) : (ofRat value).toRat = value :=
  Rat.num_div_den value

/-- A fraction in lowest terms is determined by the number it denotes. -/
theorem IsReduced.ofRat_toRat {fraction : Fraction} (reduced : fraction.IsReduced) :
    ofRat fraction.toRat = fraction := by
  rcases fraction with ⟨num, den⟩
  rcases reduced with ⟨positive, coprime⟩
  have positiveInt : (0 : ℤ) < (den : ℤ) := Int.natCast_pos.mpr positive
  have numEq : ((num : ℚ) / ((den : ℤ) : ℚ)).num = num :=
    Rat.num_div_eq_of_coprime positiveInt coprime
  have denEq : (((num : ℚ) / ((den : ℤ) : ℚ)).den : ℤ) = den :=
    Rat.den_div_eq_of_coprime positiveInt coprime
  rw [Int.cast_natCast] at numEq denEq
  exact Fraction.ext numEq (Int.natCast_inj.mp denEq)

/-- Fractions in lowest terms that denote the same number are the same. -/
theorem IsReduced.eq_of_toRat_eq {left right : Fraction} (first : left.IsReduced)
    (second : right.IsReduced) (equal : left.toRat = right.toRat) : left = right := by
  rw [← first.ofRat_toRat, ← second.ofRat_toRat, equal]

theorem IsReduced.den_ne_zero {fraction : Fraction} (reduced : fraction.IsReduced) :
    (fraction.den : ℚ) ≠ 0 :=
  Nat.cast_ne_zero.mpr reduced.1.ne'

/-- Moving the sign and dividing out the common divisor leave the quotient
alone. -/
theorem toRat_reduce (num : ℤ) {den : ℤ} (nonzero : den ≠ 0) :
    (reduce num den).toRat = num / den := by
  have divisorNonzero : ((num.gcd den : ℤ) : ℚ) ≠ 0 := by
    have positive : 0 < num.gcd den := Int.gcd_pos_of_ne_zero_right num nonzero
    exact_mod_cast positive.ne'
  have above :
      (((if den < 0 then -num else num) / (num.gcd den : ℤ) : ℤ) : ℚ) =
        ((if den < 0 then -num else num : ℤ) : ℚ) / ((num.gcd den : ℤ) : ℚ) :=
    Int.cast_div (gcd_dvd_signed num den) divisorNonzero
  have below :
      ((den.natAbs / num.gcd den : ℕ) : ℚ) = (den.natAbs : ℚ) / ((num.gcd den : ℤ) : ℚ) := by
    have divides : num.gcd den ∣ den.natAbs := Nat.gcd_dvd_right _ _
    rw [Nat.cast_div divides (by exact_mod_cast divisorNonzero), Int.cast_natCast]
  have signs :
      ((if den < 0 then -num else num : ℤ) : ℚ) / (den.natAbs : ℚ) = num / den := by
    split
    · rename_i negative
      have magnitude : ((den.natAbs : ℤ) : ℚ) = -(den : ℚ) := by
        rw [Int.ofNat_natAbs_of_nonpos negative.le, Int.cast_neg]
      rw [← Int.cast_natCast, magnitude, Int.cast_neg, neg_div_neg_eq]
    · rename_i nonnegative
      have magnitude : ((den.natAbs : ℤ) : ℚ) = (den : ℚ) := by
        rw [Int.natAbs_of_nonneg (not_lt.mp nonnegative)]
      rw [← Int.cast_natCast, magnitude]
  rw [reduce_eq, toRat, above, below, div_div_div_cancel_right₀ divisorNonzero, signs]

theorem reduce_eq_ofRat (num : ℤ) {den : ℤ} (nonzero : den ≠ 0) :
    reduce num den = ofRat (num / den) := by
  rw [← toRat_reduce num nonzero, (isReduced_reduce num nonzero).ofRat_toRat]

@[simp]
theorem toRat_ofInt (value : ℤ) : (ofInt value).toRat = value := by
  simp [toRat, ofInt]

@[simp]
theorem toRat_zero : (0 : Fraction).toRat = 0 := by
  simp [toRat]

theorem IsReduced.toRat_eq_zero_iff {fraction : Fraction} (reduced : fraction.IsReduced) :
    fraction.toRat = 0 ↔ fraction.num = 0 := by
  simp [toRat, reduced.den_ne_zero]

/-! ## The four operations -/

theorem toRat_neg (value : Fraction) : (-value).toRat = -value.toRat := by
  simp [neg_def, toRat, neg_div]

variable {left right : Fraction}

theorem toRat_add (first : left.IsReduced) (second : right.IsReduced) :
    (left + right).toRat = left.toRat + right.toRat := by
  have leftNonzero := first.den_ne_zero
  have rightNonzero := second.den_ne_zero
  rw [add_def, toRat_reduce _ (first.den_mul_ne_zero second), toRat, toRat]
  push_cast
  field_simp

theorem toRat_sub (first : left.IsReduced) (second : right.IsReduced) :
    (left - right).toRat = left.toRat - right.toRat := by
  have leftNonzero := first.den_ne_zero
  have rightNonzero := second.den_ne_zero
  rw [sub_def, toRat_reduce _ (first.den_mul_ne_zero second), toRat, toRat]
  push_cast
  field_simp

theorem toRat_mul (first : left.IsReduced) (second : right.IsReduced) :
    (left * right).toRat = left.toRat * right.toRat := by
  rw [mul_def, toRat_reduce _ (first.den_mul_ne_zero second), toRat, toRat]
  push_cast
  exact (div_mul_div_comm ..).symm

/-- The sides of the divisor change places, and its numerator may be negative
where it becomes a denominator. -/
theorem toRat_of_div?_eq_some {ratio : Fraction} (first : left.IsReduced)
    (second : right.IsReduced) (found : left.div? right = some ratio) :
    ratio.toRat = left.toRat / right.toRat := by
  have leftNonzero := first.den_ne_zero
  have rightNonzero := second.den_ne_zero
  rcases (div?_eq_some_iff left right ratio).mp found with ⟨nonzero, rfl⟩
  rw [toRat_reduce _ (first.den_mul_num_ne_zero nonzero), toRat, toRat]
  push_cast
  exact (div_div_div_eq ..).symm

/-! ## Canonical results -/

/-- Division by a fraction in lowest terms fails exactly for zero, and otherwise
returns the lowest terms of the quotient. -/
theorem div_eq (first : left.IsReduced) (second : right.IsReduced) :
    left.div right =
      if right.toRat = 0 then .error .divisionByZero
      else .ok (ofRat (left.toRat / right.toRat)) := by
  cases found : left.div? right with
  | none =>
      have zero : right.toRat = 0 :=
        second.toRat_eq_zero_iff.mpr ((div?_eq_none_iff left right).mp found)
      rw [div, found, if_pos zero]
  | some ratio =>
      have nonzero : right.toRat ≠ 0 := fun zero =>
        ((div?_eq_some_iff left right ratio).mp found).1 (second.toRat_eq_zero_iff.mp zero)
      rw [div, found, if_neg nonzero, ← toRat_of_div?_eq_some first second found,
        (isReduced_of_div?_eq_some first found).ofRat_toRat]

theorem ofInts_eq (num den : ℤ) :
    ofInts num den =
      if den = 0 then .error .divisionByZero else .ok (ofRat (num / den)) := by
  by_cases zero : den = 0
  · simp [ofInts, ofInts?, zero]
  · simp [ofInts, ofInts?, zero, reduce_eq_ofRat num zero]

/-- Adding to zero gives back a fraction in lowest terms. -/
theorem IsReduced.zero_add_eq {value : Fraction} (reduced : value.IsReduced) :
    0 + value = value := by
  have zeroReduced : (0 : Fraction).IsReduced := isReduced_ofInt 0
  apply (isReduced_add zeroReduced reduced).eq_of_toRat_eq reduced
  rw [toRat_add zeroReduced reduced, toRat_zero, zero_add]

/-- The arithmetic of fractions in lowest terms is that of the rational numbers,
with division and construction undefined exactly over zero. -/
theorem exact_arithmetic (first : left.IsReduced) (second : right.IsReduced) (num den : ℤ) :
    ((left + right).IsReduced ∧ (left + right).toRat = left.toRat + right.toRat) ∧
      ((left - right).IsReduced ∧ (left - right).toRat = left.toRat - right.toRat) ∧
      ((left * right).IsReduced ∧ (left * right).toRat = left.toRat * right.toRat) ∧
      ((-left).IsReduced ∧ (-left).toRat = -left.toRat) ∧
      (left.div right = .error .divisionByZero ↔ right.toRat = 0) ∧
      (right.toRat ≠ 0 → ∃ ratio, left.div right = .ok ratio ∧ ratio.IsReduced ∧
        ratio.toRat = left.toRat / right.toRat) ∧
      (ofInts num den = .error .divisionByZero ↔ den = 0) ∧
      (den ≠ 0 → ∃ value, ofInts num den = .ok value ∧ value.IsReduced ∧
        value.toRat = num / den) := by
  refine ⟨⟨isReduced_add first second, toRat_add first second⟩,
    ⟨isReduced_sub first second, toRat_sub first second⟩,
    ⟨isReduced_mul first second, toRat_mul first second⟩,
    ⟨isReduced_neg first, toRat_neg left⟩, ?_, ?_, ?_, ?_⟩
  · rw [div_eq first second]
    split <;> simp_all
  · intro nonzero
    exact ⟨_, by rw [div_eq first second, if_neg nonzero], isReduced_ofRat _, toRat_ofRat _⟩
  · rw [ofInts_eq]
    split <;> simp_all
  · intro nonzero
    exact ⟨_, by rw [ofInts_eq, if_neg nonzero], isReduced_ofRat _, toRat_ofRat _⟩

/-- Three quarters and minus one half: every sign changes hands once. -/
theorem exact_arithmetic_three_quarters :
    (⟨3, 4⟩ : Fraction).IsReduced ∧ (⟨-1, 2⟩ : Fraction).IsReduced ∧
      ((⟨3, 4⟩ + ⟨-1, 2⟩ : Fraction).toRat =
        (⟨3, 4⟩ : Fraction).toRat + (⟨-1, 2⟩ : Fraction).toRat) ∧
      (∃ ratio, (⟨3, 4⟩ : Fraction).div ⟨-1, 2⟩ = .ok ratio ∧ ratio.IsReduced ∧
        ratio.toRat = (⟨3, 4⟩ : Fraction).toRat / (⟨-1, 2⟩ : Fraction).toRat) ∧
      (∃ value, ofInts 3 (-6) = .ok value ∧ value.IsReduced ∧
        value.toRat = ((3 : ℤ) : ℚ) / ((-6 : ℤ) : ℚ)) := by
  have first : (⟨3, 4⟩ : Fraction).IsReduced := by decide
  have second : (⟨-1, 2⟩ : Fraction).IsReduced := by decide
  have nonzero : (⟨-1, 2⟩ : Fraction).toRat ≠ 0 := by
    rw [ne_eq, second.toRat_eq_zero_iff]
    decide
  obtain ⟨sum, _, _, _, _, quotient, _, built⟩ := exact_arithmetic first second 3 (-6)
  exact ⟨first, second, sum.2, quotient nonzero, built (by decide)⟩

end Fraction

/-! ## Operators -/

namespace Operator

/-- What an operator does to two rational numbers. -/
def onRat : Operator → ℚ → ℚ → ℚ
  | add => (· + ·)
  | sub => (· - ·)
  | mul => (· * ·)
  | div => (· / ·)

/-- On lowest terms an operator acts as on the numbers themselves; only a
division by zero has no value. -/
theorem apply_ofRat (operator : Operator) (left right : ℚ) :
    operator.apply (.ofRat left) (.ofRat right) =
      if operator = div ∧ right = 0 then .error .divisionByZero
      else .ok (.ofRat (operator.onRat left right)) := by
  have first := Fraction.isReduced_ofRat left
  have second := Fraction.isReduced_ofRat right
  cases operator with
  | add =>
      have value := Fraction.toRat_add first second
      rw [Fraction.toRat_ofRat, Fraction.toRat_ofRat] at value
      simp [apply, onRat, ← value, (Fraction.isReduced_add first second).ofRat_toRat]
  | sub =>
      have value := Fraction.toRat_sub first second
      rw [Fraction.toRat_ofRat, Fraction.toRat_ofRat] at value
      simp [apply, onRat, ← value, (Fraction.isReduced_sub first second).ofRat_toRat]
  | mul =>
      have value := Fraction.toRat_mul first second
      rw [Fraction.toRat_ofRat, Fraction.toRat_ofRat] at value
      simp [apply, onRat, ← value, (Fraction.isReduced_mul first second).ofRat_toRat]
  | div => simp [apply, onRat, Fraction.div_eq first second]

end Operator

end FractionCalculator
