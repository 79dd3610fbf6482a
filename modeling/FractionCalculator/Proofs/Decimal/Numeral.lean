import FractionCalculator.Proofs.Token.Literal
import Mathlib.Algebra.Group.Nat.Defs

/-!
# Numerals

A numeral is a digit string, perhaps with a minus sign before it. It stands for
the sum of its digits by their places, with that sign. The reader of integers
accepts the numerals and nothing else, leading zeros and a negative zero among
them, and returns what they stand for, however long they are.
-/

namespace FractionCalculator

namespace Decimal

/-- The sum of digits by their places: a digit counts as many times as ten to the
number of digits after it. -/
def positional : Text → Nat
  | [] => 0
  | digit :: rest => (digit.toNat - '0'.toNat) * 10 ^ rest.length + positional rest

/-- Reading from the left multiplies what was read before by ten for every digit,
which puts each digit in its place. -/
theorem ofDigitChars_eq_positional (digits : Text) :
    Nat.ofDigitChars 10 digits 0 = positional digits := by
  induction digits with
  | nil => rfl
  | cons digit rest inductionHypothesis =>
      rw [Nat.ofDigitChars_cons, Nat.ofDigitChars_eq_ofDigitChars_zero, inductionHypothesis,
        Nat.mul_zero, Nat.zero_add, Nat.mul_comm, positional]

/-- Only zeros add up to zero. -/
theorem positional_eq_zero_iff {digits : Text} (all : isDigits digits = true) :
    positional digits = 0 ↔ ∀ char ∈ digits, char = '0' := by
  have each := ((isDigits_iff digits).mp all).2
  rw [← ofDigitChars_eq_positional, ofDigitChars_eq_zero_iff each, and_iff_right rfl]

theorem spelled_of_readNat?_eq_some {text : Text} {value : Nat}
    (read : readNat? text = some value) :
    text ≠ [] ∧ ∀ char ∈ text, '0' ≤ char ∧ char ≤ '9' := by
  unfold readNat? at read
  split at read
  · rename_i isDigits
    exact (isDigits_iff_between text).mp isDigits
  · contradiction

end Decimal

/-- An integer as it is spelled. -/
structure Numeral where
  negative : Bool
  digits : Text
  digits_spelled : digits ≠ [] ∧ ∀ char ∈ digits, '0' ≤ char ∧ char ≤ '9'

namespace Numeral

theorem isDigits_digits (numeral : Numeral) : Decimal.isDigits numeral.digits = true :=
  (Decimal.isDigits_iff_between _).mpr numeral.digits_spelled

/-- The spelling of a numeral. -/
def text (numeral : Numeral) : Text :=
  if numeral.negative then '-' :: numeral.digits else numeral.digits

/-- The integer that a numeral stands for. -/
def value (numeral : Numeral) : Int :=
  if numeral.negative then -(Decimal.positional numeral.digits : Int)
  else (Decimal.positional numeral.digits : Int)

/-- A numeral is a literal without a slash. -/
def literal (numeral : Numeral) : Literal where
  negative := numeral.negative
  above := numeral.digits
  below := none
  above_spelled := numeral.digits_spelled
  below_spelled := by simp

variable (numeral : Numeral)

theorem upper_literal : numeral.literal.upper = numeral.text :=
  rfl

theorem num_literal : numeral.literal.num = numeral.value := by
  rw [value, ← Decimal.ofDigitChars_eq_positional, Literal.num]
  rfl

theorem slash_notMem_text : '/' ∉ numeral.text := by
  rw [← upper_literal]
  exact numeral.literal.notMem_upper rfl (by decide)

/-- Neither sign makes a zero of other digits. -/
theorem value_eq_zero_iff : numeral.value = 0 ↔ ∀ char ∈ numeral.digits, char = '0' := by
  rw [← Decimal.positional_eq_zero_iff numeral.isDigits_digits, value]
  split <;> omega

end Numeral

namespace Decimal

theorem read?_text (numeral : Numeral) : read? numeral.text = some numeral.value := by
  rw [← numeral.upper_literal, numeral.literal.read?_upper, numeral.num_literal]

/-- The texts of numerals are the ones that can be read, each as the integer that
the numeral stands for. -/
theorem read?_eq_some_iff (text : Text) (value : Int) :
    read? text = some value ↔
      ∃ numeral : Numeral, numeral.text = text ∧ numeral.value = value := by
  constructor
  · intro read
    have spelled : ∃ numeral : Numeral, numeral.text = text := by
      unfold read? at read
      split at read
      · obtain ⟨magnitude, found, -⟩ := Option.map_eq_some_iff.mp read
        exact ⟨⟨true, _, spelled_of_readNat?_eq_some found⟩, rfl⟩
      · obtain ⟨magnitude, found, -⟩ := Option.map_eq_some_iff.mp read
        exact ⟨⟨false, _, spelled_of_readNat?_eq_some found⟩, rfl⟩
    obtain ⟨numeral, rfl⟩ := spelled
    rw [read?_text, Option.some.injEq] at read
    exact ⟨numeral, rfl, read⟩
  · rintro ⟨numeral, rfl, rfl⟩
    exact read?_text numeral

end Decimal

end FractionCalculator
