import FractionCalculator.Text.Basic

/-!
# Decimal integers

An integer is written as its decimal digits without leading zeros, with a minus
sign in front when it is negative. Reading is wider than writing: leading zeros
and `-0` are accepted. Neither accepts a plus sign, blanks, separators or digits
outside ASCII. `read?_write` says that reading undoes writing.
-/

namespace FractionCalculator.Decimal

/-- A text is a digit string when it is a nonempty run of the digits 0 to 9. -/
def isDigits (text : Text) : Bool :=
  !text.isEmpty && text.all Char.isDigit

/-- The value of a digit string. -/
def readNat? (text : Text) : Option Nat :=
  if isDigits text then some (Nat.ofDigitChars 10 text 0) else none

/-- The value of a digit string with an optional minus sign before it. -/
def read? : Text → Option Int
  | '-' :: digits => (readNat? digits).map fun (n : Nat) => -(n : Int)
  | digits => (readNat? digits).map Int.ofNat

/-- The decimal digits of a natural number. -/
def writeNat (n : Nat) : Text :=
  Nat.toDigits 10 n

/-- The decimal form of an integer. -/
def write (i : Int) : Text :=
  if i < 0 then '-' :: writeNat i.natAbs else writeNat i.natAbs

theorem isDigits_iff (text : Text) :
    isDigits text = true ↔ text ≠ [] ∧ ∀ char ∈ text, char.isDigit = true := by
  simp [isDigits]

theorem isDigits_iff_between (text : Text) :
    isDigits text = true ↔ text ≠ [] ∧ ∀ char ∈ text, '0' ≤ char ∧ char ≤ '9' := by
  simp [isDigits, Char.isDigit, Char.le_def]

theorem isDigits_writeNat (n : Nat) : isDigits (writeNat n) = true := by
  rw [isDigits_iff]
  exact ⟨Nat.toDigits_ne_nil, fun _ member =>
    Nat.isDigit_of_mem_toDigits (by decide) (by decide) member⟩

theorem writeNat_spelled (n : Nat) :
    writeNat n ≠ [] ∧ ∀ char ∈ writeNat n, '0' ≤ char ∧ char ≤ '9' :=
  (isDigits_iff_between _).mp (isDigits_writeNat n)

@[simp]
theorem readNat?_writeNat (n : Nat) : readNat? (writeNat n) = some n := by
  rw [readNat?, if_pos (isDigits_writeNat n), writeNat, Nat.ofDigitChars_ten_toDigits]

theorem read?_minus (digits : Text) :
    read? ('-' :: digits) = (readNat? digits).map fun (n : Nat) => -(n : Int) :=
  rfl

/-- A digit string has no sign, so reading it as an integer gives its value. -/
theorem read?_of_isDigits {text : Text} (digits : isDigits text = true) :
    read? text = (readNat? text).map Int.ofNat := by
  unfold read?
  split
  · simp [isDigits_iff] at digits
  · rfl

/-- Reading undoes writing. -/
theorem read?_write (i : Int) : read? (write i) = some i := by
  by_cases negative : i < 0
  · have magnitude : -(i.natAbs : Int) = i := by omega
    rw [write, if_pos negative, read?_minus, readNat?_writeNat, Option.map_some, magnitude]
  · have magnitude : Int.ofNat i.natAbs = i := by
      change (i.natAbs : Int) = i
      omega
    rw [write, if_neg negative, read?_of_isDigits (isDigits_writeNat _),
      readNat?_writeNat, Option.map_some, magnitude]

end FractionCalculator.Decimal
