import FractionCalculator.Fraction
import FractionCalculator.Token

/-!
# Literals

A literal is spelled by digits, perhaps with a minus sign before them, and
perhaps by a slash and more digits; the digits after the slash carry no sign.
Its two sides are the positional values of its digits. The scanner takes exactly
the literals as whole words, and reading a literal as a fraction can fail only
over a denominator whose digits are all zero.
-/

namespace FractionCalculator

/-- The parts of a literal as it is spelled. -/
structure Literal where
  negative : Bool
  above : Text
  below : Option Text
  above_spelled : above ≠ [] ∧ ∀ char ∈ above, '0' ≤ char ∧ char ≤ '9'
  below_spelled : ∀ digits ∈ below, digits ≠ [] ∧ ∀ char ∈ digits, '0' ≤ char ∧ char ≤ '9'

namespace Literal

theorem isDigits_above (literal : Literal) : Decimal.isDigits literal.above = true :=
  (Decimal.isDigits_iff_between _).mpr literal.above_spelled

theorem isDigits_below (literal : Literal) :
    ∀ digits ∈ literal.below, Decimal.isDigits digits = true := fun digits member =>
  (Decimal.isDigits_iff_between digits).mpr (literal.below_spelled digits member)

/-- A literal without its minus sign. -/
def unsigned (literal : Literal) : Text :=
  match literal.below with
  | none => literal.above
  | some digits => literal.above ++ '/' :: digits

/-- The spelling of a literal. -/
def text (literal : Literal) : Text :=
  if literal.negative then '-' :: literal.unsigned else literal.unsigned

/-- The integer before the slash. -/
def num (literal : Literal) : Int :=
  if literal.negative then -(Nat.ofDigitChars 10 literal.above 0 : Int)
  else (Nat.ofDigitChars 10 literal.above 0 : Nat)

/-- The integer after the slash, or one. -/
def den (literal : Literal) : Nat :=
  match literal.below with
  | none => 1
  | some digits => Nat.ofDigitChars 10 digits 0

/-- A literal divides by zero when it has digits after a slash and all of them
are zeros. -/
def DividesByZero (literal : Literal) : Prop :=
  ∃ digits ∈ literal.below, ∀ char ∈ digits, char = '0'

end Literal

namespace Decimal

theorem exists_cons_of_isDigits {digits : Text} (all : isDigits digits = true) :
    ∃ first rest, digits = first :: rest ∧ first.isDigit = true := by
  rw [isDigits_iff] at all
  cases digits with
  | nil => exact absurd rfl all.1
  | cons first rest => exact ⟨first, rest, rfl, all.2 first List.mem_cons_self⟩

theorem not_mem_of_isDigits {digits : Text} (all : isDigits digits = true) {char : Char}
    (other : char.isDigit = false) : char ∉ digits := by
  intro member
  have digit := ((isDigits_iff digits).mp all).2 char member
  rw [other] at digit
  contradiction

/-- A value grows with every digit read, so it is zero only if all digits are. -/
theorem ofDigitChars_eq_zero_iff {digits : Text}
    (all : ∀ char ∈ digits, char.isDigit = true) (start : Nat) :
    Nat.ofDigitChars 10 digits start = 0 ↔ start = 0 ∧ ∀ char ∈ digits, char = '0' := by
  induction digits generalizing start with
  | nil => simp
  | cons char rest inductionHypothesis =>
      rw [List.forall_mem_cons] at all
      have digit : 48 ≤ char.toNat ∧ char.toNat ≤ 57 := by
        simpa [Char.isDigit, UInt32.le_iff_toNat_le] using all.1
      have zero : char.toNat - 48 = 0 ↔ char = '0' := by
        constructor
        · intro least
          have code : char.toNat = ('0').toNat := by
            change char.toNat = 48
            omega
          exact Char.toNat_inj.mp code
        · rintro rfl
          rfl
      rw [Nat.ofDigitChars_cons, inductionHypothesis all.2, List.forall_mem_cons]
      change 10 * start + (char.toNat - 48) = 0 ∧ _ ↔ _
      rw [Nat.add_eq_zero_iff, zero, and_assoc, Nat.mul_eq_zero]
      simp

end Decimal

namespace Literal

/-- The denominator of a literal is zero exactly when it is spelled by zeros. -/
theorem den_eq_zero_iff (literal : Literal) : literal.den = 0 ↔ literal.DividesByZero := by
  have isDigits_below := literal.isDigits_below
  unfold den DividesByZero
  cases found : literal.below with
  | none => simp
  | some digits =>
      have all := ((Decimal.isDigits_iff digits).mp (isDigits_below digits found)).2
      simp [Decimal.ofDigitChars_eq_zero_iff all]

theorem exists_cons_unsigned (literal : Literal) :
    ∃ first rest, literal.unsigned = first :: rest ∧ first.isDigit = true := by
  obtain ⟨first, rest, spelled, digit⟩ :=
    Decimal.exists_cons_of_isDigits literal.isDigits_above
  unfold unsigned
  cases literal.below with
  | none => exact ⟨first, rest, spelled, digit⟩
  | some digits => exact ⟨first, rest ++ '/' :: digits, by rw [spelled]; rfl, digit⟩

end Literal

/-! ## Spelling -/

namespace Literal

/-- A literal up to its slash. -/
def upper (literal : Literal) : Text :=
  if literal.negative then '-' :: literal.above else literal.above

theorem text_eq (literal : Literal) :
    literal.text =
      match literal.below with
      | none => literal.upper
      | some digits => literal.upper ++ '/' :: digits := by
  unfold text upper unsigned
  cases literal.below <;> split <;> rfl

/-- Before its slash a literal has digits and perhaps a minus sign. -/
theorem notMem_upper (literal : Literal) {char : Char} (other : char.isDigit = false)
    (noMinus : char ≠ '-') : char ∉ literal.upper := by
  have notAbove : char ∉ literal.above :=
    Decimal.not_mem_of_isDigits literal.isDigits_above other
  unfold upper
  split
  · simp [notAbove, noMinus]
  · exact notAbove

/-- A literal has no characters but digits, a minus sign and a slash. -/
theorem notMem_text (literal : Literal) {char : Char} (other : char.isDigit = false)
    (noMinus : char ≠ '-') (noSlash : char ≠ '/') : char ∉ literal.text := by
  have notUpper := literal.notMem_upper other noMinus
  have isDigits_below := literal.isDigits_below
  rw [text_eq]
  cases found : literal.below with
  | none => exact notUpper
  | some digits =>
      have notBelow := Decimal.not_mem_of_isDigits (isDigits_below digits found) other
      simp [notUpper, noSlash, notBelow]

theorem exists_text_eq_append (literal : Literal) :
    ∃ before digits, literal.text = before ++ digits ∧ Decimal.isDigits digits = true := by
  have isDigits_below := literal.isDigits_below
  rw [text_eq]
  cases found : literal.below with
  | none =>
      refine ⟨if literal.negative then ['-'] else [], literal.above, ?_, literal.isDigits_above⟩
      cases sign : literal.negative <;> simp [upper, sign]
  | some digits =>
      exact ⟨literal.upper ++ ['/'], digits, by simp, isDigits_below digits found⟩

end Literal

/-! ## Scanning -/

namespace Token

theorem fst_digits_spelled (text : Text) (nonempty : (digits text).1 ≠ []) :
    (digits text).1 ≠ [] ∧ ∀ char ∈ (digits text).1, '0' ≤ char ∧ char ≤ '9' := by
  rw [← Decimal.isDigits_iff_between, Decimal.isDigits_iff]
  exact ⟨nonempty, List.all_eq_true.mp List.all_takeWhile⟩

theorem digits_append_eq {all rest : Text} (isDigits_all : Decimal.isDigits all = true)
    (stop : rest.takeWhile Char.isDigit = []) : digits (all ++ rest) = (all, rest) := by
  have each := ((Decimal.isDigits_iff all).mp isDigits_all).2
  have drop : rest.dropWhile Char.isDigit = rest := by
    have whole := List.takeWhile_append_dropWhile (p := Char.isDigit) (l := rest)
    rwa [stop, List.nil_append] at whole
  rw [digits, List.takeWhile_append_of_pos each, List.dropWhile_append_of_pos each, stop, drop,
    List.append_nil]

theorem digits_eq {all : Text} (isDigits_all : Decimal.isDigits all = true) :
    digits all = (all, []) := by
  have taken : digits (all ++ []) = (all, []) := digits_append_eq isDigits_all rfl
  rwa [List.append_nil] at taken

/-- Without a leading minus sign a literal is scanned as an unsigned one. -/
theorem scanLiteral?_cons_of_ne {char : Char} (other : char ≠ '-') (rest : Text) :
    scanLiteral? (char :: rest) = scanUnsigned? (char :: rest) := by
  unfold scanLiteral?
  split
  · rename_i same
    exact absurd (List.cons.inj same).1 other
  · rfl

theorem scanLiteral?_minus (unsigned : Text) :
    scanLiteral? ('-' :: unsigned) =
      (scanUnsigned? unsigned).map fun scanned => ('-' :: scanned.1, scanned.2) :=
  rfl

end Token

namespace Literal

theorem scanUnsigned?_unsigned (literal : Literal) :
    Token.scanUnsigned? literal.unsigned = some (literal.unsigned, []) := by
  have isDigits_below := literal.isDigits_below
  have nonempty := literal.above_spelled.1
  unfold unsigned
  cases found : literal.below with
  | none => simp only [Token.scanUnsigned?, Token.digits_eq literal.isDigits_above]
  | some digits =>
      have isDigits_digits := isDigits_below digits found
      have digitsNonempty := ((Decimal.isDigits_iff digits).mp isDigits_digits).1
      have first : Token.digits (literal.above ++ '/' :: digits) = (literal.above, '/' :: digits) :=
        Token.digits_append_eq literal.isDigits_above rfl
      simp only [Token.scanUnsigned?, first, Token.digits_eq isDigits_digits]

/-- A literal is scanned whole, its minus sign included. -/
theorem scanLiteral?_text (literal : Literal) :
    Token.scanLiteral? literal.text = some (literal.text, []) := by
  unfold text
  split
  · rw [Token.scanLiteral?_minus, scanUnsigned?_unsigned, Option.map_some]
  · obtain ⟨first, rest, spelled, digit⟩ := literal.exists_cons_unsigned
    have other : first ≠ '-' := by
      rintro rfl
      contradiction
    rw [← scanUnsigned?_unsigned, spelled, Token.scanLiteral?_cons_of_ne other]

/-- What is scanned as an unsigned literal is one, and the rest is what stands
after it. -/
theorem exists_of_scanUnsigned?_eq_some {text spelling rest : Text} (negative : Bool)
    (scanned : Token.scanUnsigned? text = some (spelling, rest)) :
    ∃ literal : Literal,
      literal.negative = negative ∧ literal.unsigned = spelling ∧ text = spelling ++ rest := by
  have whole := Token.digits_append text
  have above_spelled := Token.fst_digits_spelled text
  unfold Token.scanUnsigned? at scanned
  split at scanned
  · contradiction
  · rename_i above after nonempty found
    rw [found] at whole above_spelled
    have wholeAfter := Token.digits_append after
    have below_spelled := Token.fst_digits_spelled after
    split at scanned
    · simp only [Option.some.injEq, Prod.mk.injEq] at scanned
      obtain ⟨rfl, rfl⟩ := scanned
      exact ⟨⟨negative, above, none, above_spelled nonempty, by simp⟩, rfl, rfl, whole.symm⟩
    · rename_i below remaining belowNonempty foundAfter
      rw [foundAfter] at wholeAfter below_spelled
      simp only [Option.some.injEq, Prod.mk.injEq] at scanned
      obtain ⟨rfl, rfl⟩ := scanned
      refine ⟨⟨negative, above, some below, above_spelled nonempty,
        by simpa using below_spelled belowNonempty⟩, rfl, rfl, ?_⟩
      rw [← whole, ← wholeAfter, List.append_assoc, List.cons_append]
  · rename_i above after nonempty slashless found
    rw [found] at whole above_spelled
    simp only [Option.some.injEq, Prod.mk.injEq] at scanned
    obtain ⟨rfl, rfl⟩ := scanned
    exact ⟨⟨negative, above, none, above_spelled nonempty, by simp⟩, rfl, rfl, whole.symm⟩

/-- What is scanned as a literal is one, and the rest is what stands after it. -/
theorem exists_of_scanLiteral?_eq_some {text spelling rest : Text}
    (scanned : Token.scanLiteral? text = some (spelling, rest)) :
    ∃ literal : Literal, literal.text = spelling ∧ text = spelling ++ rest := by
  unfold Token.scanLiteral? at scanned
  split at scanned
  · obtain ⟨⟨digits, remaining⟩, found, equal⟩ := Option.map_eq_some_iff.mp scanned
    simp only [Prod.mk.injEq] at equal
    obtain ⟨rfl, rfl⟩ := equal
    obtain ⟨literal, negative, rfl, rfl⟩ := exists_of_scanUnsigned?_eq_some true found
    exact ⟨literal, by rw [Literal.text, if_pos negative], rfl⟩
  · obtain ⟨literal, positive, rfl, rfl⟩ := exists_of_scanUnsigned?_eq_some false scanned
    exact ⟨literal, by simp [Literal.text, positive], rfl⟩

end Literal

/-! ## Reading -/

namespace Fraction

theorem forall_ne_slash {text : Text} (noSlash : '/' ∉ text) :
    ∀ char ∈ text, decide (char ≠ '/') = true := by
  intro char member
  rw [decide_eq_true_iff]
  rintro rfl
  exact noSlash member

/-- A text without a slash is read as an integer. -/
theorem ofText_of_notMem {text : Text} (noSlash : '/' ∉ text) :
    ofText text =
      match Decimal.read? text with
      | some whole => .ok (ofInt whole)
      | none => .error (.notFraction text) := by
  have drop : text.dropWhile (· ≠ '/') = [] := by
    have dropped : (text ++ []).dropWhile (· ≠ '/') = [].dropWhile (· ≠ '/') :=
      List.dropWhile_append_of_pos (forall_ne_slash noSlash)
    rwa [List.append_nil] at dropped
  cases read : Decimal.read? text <;> simp only [ofText, drop, read]

/-- A text is read as two integers around its first slash. -/
theorem ofText_append_slash {before : Text} (first : '/' ∉ before) (after : Text) :
    ofText (before ++ '/' :: after) =
      match Decimal.read? before, Decimal.read? after with
      | some num, some den => ofInts num den
      | _, _ => .error (.notFraction (before ++ '/' :: after)) := by
  have each := forall_ne_slash first
  have drop : (before ++ '/' :: after).dropWhile (· ≠ '/') = '/' :: after := by
    rw [List.dropWhile_append_of_pos each]
    rfl
  have take : (before ++ '/' :: after).takeWhile (· ≠ '/') = before := by
    rw [List.takeWhile_append_of_pos each]
    simp
  cases above : Decimal.read? before <;> cases below : Decimal.read? after <;>
    simp only [ofText, drop, take, above, below]

end Fraction

namespace Literal

theorem readNat?_of_isDigits {digits : Text} (isDigits : Decimal.isDigits digits = true) :
    Decimal.readNat? digits = some (Nat.ofDigitChars 10 digits 0) := by
  rw [Decimal.readNat?, if_pos isDigits]

theorem read?_upper (literal : Literal) : Decimal.read? literal.upper = some literal.num := by
  have digits := readNat?_of_isDigits literal.isDigits_above
  unfold upper num
  split
  · rw [Decimal.read?_minus, digits, Option.map_some]
  · rw [Decimal.read?_of_isDigits literal.isDigits_above, digits, Option.map_some]
    rfl

/-- A literal is read as the fraction of its two sides. -/
theorem ofText_text (literal : Literal) :
    Fraction.ofText literal.text = Fraction.ofInts literal.num literal.den := by
  have noSlash : '/' ∉ literal.upper := literal.notMem_upper rfl (by decide)
  have isDigits_below := literal.isDigits_below
  rw [text_eq, den]
  cases found : literal.below with
  | none =>
      simp only [Fraction.ofText_of_notMem noSlash, read?_upper]
      simp [Fraction.ofInts, Fraction.ofInts?, Fraction.reduce, Fraction.ofInt]
  | some digits =>
      have isDigits := isDigits_below digits found
      simp only [Fraction.ofText_append_slash noSlash, read?_upper,
        Decimal.read?_of_isDigits isDigits, readNat?_of_isDigits isDigits, Option.map_some]
      rfl

end Literal

end FractionCalculator
