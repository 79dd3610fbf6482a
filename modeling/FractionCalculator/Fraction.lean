import FractionCalculator.Decimal
import FractionCalculator.Fault

/-!
# Fractions

A fraction is a numerator and a denominator of any size. It is in lowest terms
when the denominator is positive and shares no factor with the numerator; the
sign then sits on the numerator and zero is `0/1`. The type itself does not
impose lowest terms: `reduce` establishes them, and every operation ends in
`reduce` or keeps them. Division is partial, and its only failure is a divisor
of zero.

A whole number is written as an integer and any other fraction as numerator,
slash, denominator. Reading accepts an integer, or two integers around the first
slash, both with an optional minus sign, and reduces what it reads. A text of
another shape is an invalid fraction; a text of that shape with a zero
denominator divides by zero.
-/

namespace FractionCalculator

/-- A numerator over a denominator. -/
@[ext]
structure Fraction where
  /-- The numerator, which carries the sign. -/
  num : Int
  /-- The denominator. -/
  den : Nat
deriving DecidableEq, Repr

namespace Fraction

/-- Lowest terms: a positive denominator that is coprime to the numerator. -/
def IsReduced (fraction : Fraction) : Prop :=
  0 < fraction.den ∧ fraction.num.natAbs.Coprime fraction.den

instance (fraction : Fraction) : Decidable fraction.IsReduced :=
  inferInstanceAs (Decidable (_ ∧ _))

/-- The lowest terms of `num / den` for a nonzero `den`: the sign moves to the
numerator, and both sides are divided by their greatest common divisor unless
they are coprime as they stand. -/
def reduce (num den : Int) : Fraction :=
  let signed := if den < 0 then -num else num
  let divisor := signed.gcd den.natAbs
  if divisor = 1 then ⟨signed, den.natAbs⟩
  else ⟨signed / (divisor : Int), den.natAbs / divisor⟩

/-- The whole number `value`. -/
def ofInt (value : Int) : Fraction :=
  ⟨value, 1⟩

/-- The fraction `num / den`, which exists when `den` is nonzero. -/
def ofInts? (num den : Int) : Option Fraction :=
  if den = 0 then none else some (reduce num den)

/-- The fraction `num / den`, or the fault of dividing by zero. -/
def ofInts (num den : Int) : Except Fault Fraction :=
  match ofInts? num den with
  | some fraction => .ok fraction
  | none => .error .divisionByZero

instance : Zero Fraction :=
  ⟨ofInt 0⟩

instance : Inhabited Fraction :=
  ⟨0⟩

/-- A fraction is zero when its numerator is. -/
def isZero (fraction : Fraction) : Bool :=
  fraction.num == 0

/-- A fraction is a whole number when its denominator is one. -/
def isInteger (fraction : Fraction) : Bool :=
  fraction.den == 1

instance : Neg Fraction :=
  ⟨fun value => ⟨-value.num, value.den⟩⟩

instance : Add Fraction :=
  ⟨fun left right => reduce (left.num * right.den + right.num * left.den)
    (left.den * right.den)⟩

instance : Sub Fraction :=
  ⟨fun left right => reduce (left.num * right.den - right.num * left.den)
    (left.den * right.den)⟩

instance : Mul Fraction :=
  ⟨fun left right => reduce (left.num * right.num) (left.den * right.den)⟩

/-- The fraction `left / right`, which exists when `right` is not zero. -/
def div? (left right : Fraction) : Option Fraction :=
  if right.isZero then none
  else some (reduce (left.num * right.den) (left.den * right.num))

/-- The fraction `left / right`, or the fault of dividing by zero. -/
def div (left right : Fraction) : Except Fault Fraction :=
  match left.div? right with
  | some ratio => .ok ratio
  | none => .error .divisionByZero

@[simp]
theorem num_zero : (0 : Fraction).num = 0 :=
  rfl

theorem isZero_iff (fraction : Fraction) :
    fraction.isZero = true ↔ fraction.num = 0 := by
  simp [isZero]

theorem add_def (left right : Fraction) :
    left + right = reduce (left.num * right.den + right.num * left.den)
      (left.den * right.den) :=
  rfl

theorem sub_def (left right : Fraction) :
    left - right = reduce (left.num * right.den - right.num * left.den)
      (left.den * right.den) :=
  rfl

theorem mul_def (left right : Fraction) :
    left * right = reduce (left.num * right.num) (left.den * right.den) :=
  rfl

theorem neg_def (value : Fraction) : -value = ⟨-value.num, value.den⟩ :=
  rfl

/-- A division has no value exactly for a zero divisor. -/
theorem div?_eq_none_iff (left right : Fraction) :
    left.div? right = none ↔ right.num = 0 := by
  rw [← isZero_iff]
  by_cases zero : right.isZero = true <;> simp [div?, zero]

theorem div?_eq_some_iff (left right ratio : Fraction) :
    left.div? right = some ratio ↔
      right.num ≠ 0 ∧ reduce (left.num * right.den) (left.den * right.num) = ratio := by
  rw [ne_eq, ← isZero_iff]
  by_cases zero : right.isZero = true <;> simp [div?, zero]

/-! ## Lowest terms -/

/-- The sign of a denominator does not change the greatest common divisor, and
a division by one may be skipped: reducing is dividing by that divisor. -/
theorem reduce_eq (num den : Int) :
    reduce num den =
      ⟨(if den < 0 then -num else num) / (num.gcd den : Int), den.natAbs / num.gcd den⟩ := by
  have divisor : (if den < 0 then -num else num).gcd den.natAbs = num.gcd den := by
    split <;> simp only [Int.gcd, Int.natAbs_neg, Int.natAbs_natCast]
  simp only [reduce, divisor]
  split
  · rename_i coprime
    simp [coprime]
  · rfl

theorem gcd_dvd_signed (num den : Int) :
    (num.gcd den : Int) ∣ if den < 0 then -num else num := by
  split
  · exact Int.dvd_neg.mpr (Int.gcd_dvd_left ..)
  · exact Int.gcd_dvd_left ..

/-- Reducing by the greatest common divisor leaves coprime sides, provided the
denominator is not zero. -/
theorem isReduced_reduce (num : Int) {den : Int} (nonzero : den ≠ 0) :
    (reduce num den).IsReduced := by
  have positive : 0 < num.gcd den := Int.gcd_pos_of_ne_zero_right num nonzero
  have below : num.gcd den ∣ den.natAbs := Nat.gcd_dvd_right _ _
  rw [reduce_eq]
  constructor
  · exact Nat.div_pos (Nat.le_of_dvd (by omega) below) positive
  · have magnitude : ((if den < 0 then -num else num) / (num.gcd den : Int)).natAbs =
        num.natAbs / num.gcd den := by
      rw [Int.natAbs_ediv_of_dvd (gcd_dvd_signed num den), Int.natAbs_natCast]
      split <;> simp
    simp only [magnitude]
    exact Nat.coprime_div_gcd_div_gcd positive

theorem isReduced_of_ofInts_eq_ok {num den : Int} {value : Fraction}
    (built : ofInts num den = .ok value) : value.IsReduced := by
  by_cases zero : den = 0
  · simp [ofInts, ofInts?, zero] at built
  · simp only [ofInts, ofInts?, zero, if_false, Except.ok.injEq] at built
    exact built ▸ isReduced_reduce num zero

theorem isReduced_ofInt (value : Int) : (ofInt value).IsReduced := by
  simp [IsReduced, ofInt]

theorem isReduced_neg {value : Fraction} (reduced : value.IsReduced) :
    (-value).IsReduced := by
  simpa [IsReduced, neg_def] using reduced

/-- The product of two positive denominators is a denominator to reduce by. -/
theorem IsReduced.den_mul_ne_zero {left right : Fraction} (first : left.IsReduced)
    (second : right.IsReduced) : (left.den : Int) * right.den ≠ 0 := by
  have positive : 0 < left.den * right.den := Nat.mul_pos first.1 second.1
  rw [← Int.natCast_mul]
  omega

/-- So is the product of a positive denominator and a nonzero numerator, which
may be negative. -/
theorem IsReduced.den_mul_num_ne_zero {left right : Fraction} (first : left.IsReduced)
    (nonzero : right.num ≠ 0) : (left.den : Int) * right.num ≠ 0 := by
  have positive : (left.den : Int) ≠ 0 := by
    have := first.1
    omega
  exact Int.mul_ne_zero positive nonzero

theorem isReduced_add {left right : Fraction} (first : left.IsReduced)
    (second : right.IsReduced) : (left + right).IsReduced :=
  isReduced_reduce _ (first.den_mul_ne_zero second)

theorem isReduced_sub {left right : Fraction} (first : left.IsReduced)
    (second : right.IsReduced) : (left - right).IsReduced :=
  isReduced_reduce _ (first.den_mul_ne_zero second)

theorem isReduced_mul {left right : Fraction} (first : left.IsReduced)
    (second : right.IsReduced) : (left * right).IsReduced :=
  isReduced_reduce _ (first.den_mul_ne_zero second)

/-- The value of a division is in lowest terms, also for a divisor below zero. -/
theorem isReduced_of_div?_eq_some {left right ratio : Fraction} (first : left.IsReduced)
    (found : left.div? right = some ratio) : ratio.IsReduced := by
  rcases (div?_eq_some_iff left right ratio).mp found with ⟨nonzero, rfl⟩
  exact isReduced_reduce _ (first.den_mul_num_ne_zero nonzero)

/-! ## Written form -/

/-- The written form of a fraction. -/
def toText (fraction : Fraction) : Text :=
  if fraction.isInteger then Decimal.write fraction.num
  else Decimal.write fraction.num ++ '/' :: Decimal.writeNat fraction.den

/-- The fraction that a text writes. -/
def ofText (text : Text) : Except Fault Fraction :=
  match text.dropWhile (· ≠ '/') with
  | [] =>
    match Decimal.read? text with
    | some value => .ok (ofInt value)
    | none => .error (.notFraction text)
  | _ :: below =>
    match Decimal.read? (text.takeWhile (· ≠ '/')), Decimal.read? below with
    | some num, some den => ofInts num den
    | _, _ => .error (.notFraction text)

end Fraction

end FractionCalculator
