import FractionCalculator.Proofs.Fraction.Reading
import FractionCalculator.Proofs.Token.LongestMatch

/-!
# Literals among the texts of fractions

The scanner that recognises literals and the reader of fractions follow a grammar
each. The grammars nest: every literal spells a fraction, and a spelling is a literal
unless a minus sign stands after its slash. So reading a literal can fail over its
denominator only, and what is read beyond literals is known exactly.
-/

namespace FractionCalculator

namespace Numeral

variable {numeral : Numeral}

theorem text_of_nonnegative (nonnegative : numeral.negative = false) :
    numeral.text = numeral.digits := by
  rw [text, nonnegative]
  rfl

theorem minus_mem_text (negative : numeral.negative = true) : '-' ∈ numeral.text := by
  rw [text, if_pos negative]
  exact List.mem_cons_self

end Numeral

theorem Token.forall_ofWord?_ne_literal_iff (word : Text) :
    (∀ spelling, ofWord? word ≠ some (.literal spelling)) ↔
      ¬ ∃ literal : Literal, literal.text = word := by
  simp only [ne_eq, ofWord?_eq_some_iff_spells, spells_literal_iff, not_and]
  constructor
  · exact fun noSpelling => noSpelling word rfl
  · exact fun noLiteral _ _ => noLiteral

namespace Fraction

/-- A spelling with a sign after its slash is no literal, for only digits follow the
slash of a literal. -/
theorem Spelling.text_ne_of_negative (spelling : Spelling) {below : Numeral}
    (member : below ∈ spelling.below) (negative : below.negative = true) (literal : Literal) :
    literal.text ≠ spelling.text := by
  intro written
  have noSlash : '/' ∉ literal.upper := literal.notMem_upper rfl (by decide)
  have isDigits_below := literal.isDigits_below
  rw [Option.mem_def] at member
  rw [literal.text_eq, Spelling.text, member] at written
  cases found : literal.below with
  | none =>
      simp only [found] at written
      rw [written] at noSlash
      exact noSlash (List.mem_append_right _ List.mem_cons_self)
  | some digits =>
      have isDigits := isDigits_below digits found
      simp only [found] at written
      rw [List.append_cons_inj_of_notMem noSlash
        (Decimal.not_mem_of_isDigits isDigits rfl)] at written
      have minus := Numeral.minus_mem_text negative
      rw [← written.2.2] at minus
      exact Decimal.not_mem_of_isDigits isDigits rfl minus

/-- A spelling is a literal exactly when no minus sign stands after its slash. -/
theorem Spelling.exists_literal_iff (spelling : Spelling) :
    (∃ literal : Literal, literal.text = spelling.text) ↔
      ∀ below ∈ spelling.below, below.negative = false := by
  constructor
  · rintro ⟨literal, written⟩ below member
    rw [← Bool.not_eq_true]
    exact fun negative => spelling.text_ne_of_negative member negative literal written
  · intro nonnegative
    rcases spelling with ⟨above, below⟩
    cases below with
    | none => exact ⟨above.literal, rfl⟩
    | some below =>
        let literal : Literal :=
          ⟨above.negative, above.digits, some below.digits, above.digits_spelled,
            by simpa using below.digits_spelled⟩
        refine ⟨literal, ?_⟩
        simp only [literal.text_eq, Spelling.text, literal,
          Numeral.text_of_nonnegative (nonnegative below rfl)]
        rfl

/-- Reading a literal fails over its denominator only. -/
theorem eq_divisionByZero_of_literal {word spelling : Text} {fault : Fault}
    (token : Token.ofWord? word = some (.literal spelling))
    (failed : ofText spelling = .error fault) : fault = .divisionByZero := by
  rw [Token.ofWord?_eq_some_iff_spells, Token.spells_literal_iff] at token
  obtain ⟨rfl, literal, rfl⟩ := token
  rw [literal.ofText_text, ofInts_eq] at failed
  split at failed
  · exact (Except.error.inj failed).symm
  · contradiction

/-- What is read without being a literal is what has a minus sign after its slash
and digits other than zero after that. -/
theorem ofText_eq_ok_and_ne_literal_iff (text : Text) :
    ((∃ value, ofText text = .ok value) ∧
        ∀ spelling, Token.ofWord? text ≠ some (.literal spelling)) ↔
      ∃ above below : Numeral, below.negative = true ∧
        (∃ digit ∈ below.digits, digit ≠ '0') ∧ text = above.text ++ '/' :: below.text := by
  rw [Token.forall_ofWord?_ne_literal_iff]
  constructor
  · rintro ⟨⟨value, read⟩, noLiteral⟩
    obtain ⟨spelling, rfl, defined, -, -⟩ := (ofText_eq_ok_iff text value).mp read
    rw [spelling.exists_literal_iff] at noLiteral
    push Not at noLiteral
    obtain ⟨below, member, negative⟩ := noLiteral
    have nonzero : ∃ digit ∈ below.digits, digit ≠ '0' := by
      by_contra zeros
      push Not at zeros
      exact defined ⟨below, member, zeros⟩
    rw [Option.mem_def] at member
    refine ⟨spelling.above, below, by simpa using negative, nonzero, ?_⟩
    rw [Spelling.text, member]
  · rintro ⟨above, below, negative, ⟨digit, member, nonzero⟩, rfl⟩
    let spelling : Spelling := ⟨above, some below⟩
    have defined : ¬ spelling.DividesByZero := by
      rintro ⟨_, ⟨rfl⟩, zeros⟩
      exact nonzero (zeros digit member)
    refine ⟨⟨_, ofText_text defined⟩, ?_⟩
    rintro ⟨literal, written⟩
    exact spelling.text_ne_of_negative rfl negative literal written

end Fraction

end FractionCalculator
