import FractionCalculator.Proofs.Fraction.RoundTrip

/-!
# Equal fractions are equal numbers

Two fractions are compared side by side, numerator with numerator and denominator
with denominator. In lowest terms this is a comparison of the numbers, since every
number has one fraction in lowest terms only. So fractions that are built from
integers are equal, and written alike, exactly when the integers agree crosswise,
and fractions in lowest terms are equal exactly when their difference is zero.
-/

namespace FractionCalculator.Fraction

/-- No two numbers have the same lowest terms. -/
theorem ofRat_injective : Function.Injective ofRat := by
  intro first second same
  rw [← toRat_ofRat first, same, toRat_ofRat]

/-- Two quotients have the same lowest terms exactly when their sides agree
crosswise, whatever the signs. -/
theorem ofRat_div_eq_iff (num otherNum : ℤ) {den otherDen : ℤ} (nonzero : den ≠ 0)
    (otherNonzero : otherDen ≠ 0) :
    ofRat (num / den) = ofRat (otherNum / otherDen) ↔ num * otherDen = otherNum * den := by
  have below : (den : ℚ) ≠ 0 := Int.cast_ne_zero.mpr nonzero
  have otherBelow : (otherDen : ℚ) ≠ 0 := Int.cast_ne_zero.mpr otherNonzero
  rw [ofRat_injective.eq_iff, div_eq_div_iff below otherBelow]
  norm_cast

section

variable {left right : Fraction} (first : left.IsReduced) (second : right.IsReduced)
include first second

theorem IsReduced.toText_eq_toText_iff : left.toText = right.toText ↔ left = right := by
  constructor
  · intro same
    have read := first.ofText_toText
    rw [same, second.ofText_toText, Except.ok.injEq] at read
    exact read.symm
  · exact congrArg toText

theorem IsReduced.isZero_sub_iff : (left - right).isZero = true ↔ left = right := by
  have difference := isReduced_sub first second
  rw [isZero_iff, ← difference.toRat_eq_zero_iff, toRat_sub first second, sub_eq_zero]
  constructor
  · exact first.eq_of_toRat_eq second
  · exact congrArg toRat

end

/-- Fractions that are built from integers with nonzero denominators are equal side
by side, and written alike, exactly when the integers agree crosswise. Fractions in
lowest terms are equal exactly when their difference is zero. -/
theorem equal_iff_same_number :
    (∀ num den otherNum otherDen : Int, den ≠ 0 → otherDen ≠ 0 →
      ∃ value other, ofInts num den = .ok value ∧ ofInts otherNum otherDen = .ok other ∧
        ((value == other) = true ↔ num * otherDen = otherNum * den) ∧
        (value.num = other.num ∧ value.den = other.den ↔ num * otherDen = otherNum * den) ∧
        (value.toText = other.toText ↔ num * otherDen = otherNum * den)) ∧
      ∀ left right : Fraction, left.IsReduced → right.IsReduced →
        ((left == right) = true ↔ (left - right).isZero = true) := by
  constructor
  · intro num den otherNum otherDen nonzero otherNonzero
    have crosswise := ofRat_div_eq_iff num otherNum nonzero otherNonzero
    have reduced := isReduced_ofRat (num / den)
    have otherReduced := isReduced_ofRat (otherNum / otherDen)
    refine ⟨ofRat (num / den), ofRat (otherNum / otherDen), ?_, ?_, ?_, ?_, ?_⟩
    · rw [ofInts_eq, if_neg nonzero]
    · rw [ofInts_eq, if_neg otherNonzero]
    · rw [beq_iff_eq, crosswise]
    · rw [← Fraction.ext_iff, crosswise]
    · rw [reduced.toText_eq_toText_iff otherReduced, crosswise]
  · intro left right first second
    rw [beq_iff_eq, first.isZero_sub_iff second]

/-- Minus one half with its sign on either side, zero over denominators of either
sign, and two halves that differ in sign. -/
theorem equal_iff_same_number_minus_half :
    (-4 : Int) ≠ 0 ∧ (6 : Int) ≠ 0 ∧
      (∃ value other, ofInts 2 (-4) = .ok value ∧ ofInts (-3) 6 = .ok other ∧
        (value == other) = true ∧ value.toText = other.toText) ∧
      (∃ value other, ofInts 0 (-4) = .ok value ∧ ofInts 0 6 = .ok other ∧
        value.num = other.num ∧ value.den = other.den) ∧
      (⟨-1, 2⟩ : Fraction).IsReduced ∧ (⟨1, 2⟩ : Fraction).IsReduced ∧
      ¬ ((⟨-1, 2⟩ - ⟨1, 2⟩ : Fraction).isZero = true) := by
  have nonzero : (-4 : Int) ≠ 0 := by decide
  have otherNonzero : (6 : Int) ≠ 0 := by decide
  have reduced : (⟨-1, 2⟩ : Fraction).IsReduced := by decide
  have otherReduced : (⟨1, 2⟩ : Fraction).IsReduced := by decide
  obtain ⟨built, compared⟩ := equal_iff_same_number
  obtain ⟨value, other, read, otherRead, equal, -, alike⟩ :=
    built 2 (-4) (-3) 6 nonzero otherNonzero
  obtain ⟨zero, otherZero, zeroRead, otherZeroRead, -, sides, -⟩ :=
    built 0 (-4) 0 6 nonzero otherNonzero
  refine ⟨nonzero, otherNonzero,
    ⟨value, other, read, otherRead, equal.mpr (by decide), alike.mpr (by decide)⟩,
    ⟨zero, otherZero, zeroRead, otherZeroRead, sides.mpr (by decide)⟩, reduced, otherReduced, ?_⟩
  rw [← compared _ _ reduced otherReduced]
  decide

end FractionCalculator.Fraction
