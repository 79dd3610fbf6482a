import FractionCalculator.Proofs.Token.Literal

/-!
# Decimal digits are unique up to leading zeros

Digits that begin with no zero are the digits that are written for their value,
and only zero itself is written with a zero in front. So a number has exactly
one spelling without leading zeros.
-/

namespace FractionCalculator.Decimal

theorem head?_writeNat_ne {n : Nat} (positive : 0 < n) : (writeNat n).head? ≠ some '0' := by
  unfold writeNat
  induction n using Nat.strongRecOn with
  | ind n inductionHypothesis =>
      by_cases single : n < 10
      · rw [Nat.toDigits_of_lt_base single, List.head?_cons, ne_eq, Option.some.injEq,
          Nat.digitChar_eq_zero]
        exact Nat.pos_iff_ne_zero.mp positive
      · have shorter : n / 10 < n := Nat.div_lt_self positive (by decide)
        have earlier := inductionHypothesis (n / 10) shorter
          (Nat.div_pos (Nat.le_of_not_lt single) (by decide))
        rw [Nat.toDigits_of_base_le (by decide) (Nat.le_of_not_lt single)]
        cases found : Nat.toDigits 10 (n / 10) with
        | nil => exact absurd found Nat.toDigits_ne_nil
        | cons first rest => rwa [found] at earlier

theorem exists_toDigits_eq {char : Char} (digit : char.isDigit = true) :
    ∃ value < 10, char.toNat - '0'.toNat = value ∧ Nat.toDigits 10 value = [char] := by
  have bounds : 48 ≤ char.toNat ∧ char.toNat ≤ 57 := by
    simpa [Char.isDigit, UInt32.le_iff_toNat_le] using digit
  have zero : '0'.toNat = 48 := rfl
  refine ⟨char.toNat - 48, by omega, by rw [zero], ?_⟩
  have code : (char.toNat - 48).digitChar.toNat = char.toNat := by
    rw [Nat.toNat_digitChar_of_lt_ten (by omega)]
    omega
  rw [Nat.toDigits_of_lt_base (by omega), Char.toNat_inj.mp code]

/-- Digits behind a positive number are written as they stand: each of them
makes room for itself by a factor of ten. -/
theorem toDigits_append {digits : Text} (all : ∀ char ∈ digits, char.isDigit = true)
    {start : Nat} (positive : 0 < start) :
    Nat.toDigits 10 start ++ digits = Nat.toDigits 10 (Nat.ofDigitChars 10 digits start) := by
  induction digits generalizing start with
  | nil => rw [List.append_nil, Nat.ofDigitChars_nil]
  | cons char rest inductionHypothesis =>
      rw [List.forall_mem_cons] at all
      obtain ⟨value, small, read, written⟩ := exists_toDigits_eq all.1
      have room : 0 < 10 * start + value := by omega
      rw [Nat.ofDigitChars_cons, read]
      calc
        Nat.toDigits 10 start ++ char :: rest =
            (Nat.toDigits 10 start ++ Nat.toDigits 10 value) ++ rest := by
              rw [written, List.append_assoc, List.singleton_append]
        _ = Nat.toDigits 10 (10 * start + value) ++ rest := by
              rw [Nat.toDigits_append_toDigits (by decide) positive small]
        _ = Nat.toDigits 10 (Nat.ofDigitChars 10 rest (10 * start + value)) :=
              inductionHypothesis all.2 room

variable {digits : Text} (isDigits_digits : isDigits digits = true)
  (noZero : digits.head? ≠ some '0')
include isDigits_digits noZero

/-- Without a leading zero, digits have a positive value. -/
theorem ofDigitChars_pos : 0 < Nat.ofDigitChars 10 digits 0 := by
  have each := ((isDigits_iff digits).mp isDigits_digits).2
  rw [Nat.pos_iff_ne_zero, ne_eq, ofDigitChars_eq_zero_iff each]
  rintro ⟨-, zeros⟩
  obtain ⟨first, rest, rfl, -⟩ := exists_cons_of_isDigits isDigits_digits
  exact noZero (congrArg some (zeros first List.mem_cons_self))

/-- Without a leading zero, digits are those written for their value. -/
theorem writeNat_ofDigitChars : writeNat (Nat.ofDigitChars 10 digits 0) = digits := by
  obtain ⟨first, rest, rfl, digit⟩ := exists_cons_of_isDigits isDigits_digits
  have each := ((isDigits_iff _).mp isDigits_digits).2
  rw [List.forall_mem_cons] at each
  obtain ⟨value, -, read, written⟩ := exists_toDigits_eq digit
  have positive : 0 < value := by
    rw [Nat.pos_iff_ne_zero]
    rintro rfl
    rw [Nat.toDigits_zero] at written
    exact noZero (congrArg some (List.cons.inj written).1.symm)
  rw [writeNat, Nat.ofDigitChars_cons, read, Nat.mul_zero, Nat.zero_add,
    ← toDigits_append each.2 positive, written, List.singleton_append]

end FractionCalculator.Decimal
