import FractionCalculator.Proofs.Decimal.Numeral
import FractionCalculator.Proofs.Fraction.Rational

/-!
# Which texts are read as fractions

A fraction is spelled as a numeral, perhaps with a slash and another numeral after
it. Every spelling is read as the quotient of its two integers in lowest terms,
unless the digits after the slash are all zero, and no other text is read at all.
A minus sign may stand on either side, which makes this grammar wider than that of
the literals in a line.
-/

namespace FractionCalculator.Fraction

/-- A fraction as it is spelled. -/
structure Spelling where
  above : Numeral
  below : Option Numeral

namespace Spelling

/-- The text of a spelling. -/
def text (spelling : Spelling) : Text :=
  match spelling.below with
  | none => spelling.above.text
  | some below => spelling.above.text ++ '/' :: below.text

/-- The number that a spelling stands for. -/
def value (spelling : Spelling) : ℚ :=
  match spelling.below with
  | none => spelling.above.value
  | some below => spelling.above.value / below.value

/-- The digits after a slash are all zero. -/
def DividesByZero (spelling : Spelling) : Prop :=
  ∃ below ∈ spelling.below, ∀ char ∈ below.digits, char = '0'

end Spelling

theorem ofInt_eq_ofRat (whole : ℤ) : ofInt whole = ofRat whole := by
  rw [← toRat_ofInt, (isReduced_ofInt whole).ofRat_toRat]

/-! ## Spellings and other texts -/

/-- A spelling over zeros is no fraction. -/
theorem ofText_text_of_dividesByZero {spelling : Spelling} (zeros : spelling.DividesByZero) :
    ofText spelling.text = .error .divisionByZero := by
  obtain ⟨below, member, zeros⟩ := zeros
  rw [Option.mem_def] at member
  simp only [Spelling.text, member, ofText_append_slash spelling.above.slash_notMem_text,
    Decimal.read?_text]
  rw [ofInts_eq, if_pos (below.value_eq_zero_iff.mpr zeros)]

/-- Every other spelling is read as its value. -/
theorem ofText_text {spelling : Spelling} (defined : ¬ spelling.DividesByZero) :
    ofText spelling.text = .ok (.ofRat spelling.value) := by
  have noSlash := spelling.above.slash_notMem_text
  cases found : spelling.below with
  | none =>
      simp only [Spelling.text, Spelling.value, found, ofText_of_notMem noSlash,
        Decimal.read?_text, ofInt_eq_ofRat]
  | some below =>
      have nonzero : below.value ≠ 0 := by
        rw [ne_eq, below.value_eq_zero_iff]
        exact fun zeros => defined ⟨below, found, zeros⟩
      simp only [Spelling.text, Spelling.value, found, ofText_append_slash noSlash,
        Decimal.read?_text, ofInts_eq, if_neg nonzero]

theorem ofText_of_forall_ne {text : Text} (other : ∀ spelling : Spelling, spelling.text ≠ text) :
    ofText text = .error (.notFraction text) := by
  by_cases slash : '/' ∈ text
  · obtain ⟨before, after, rfl, first⟩ := List.eq_append_cons_of_mem slash
    rw [ofText_append_slash first]
    cases above : Decimal.read? before with
    | none => rfl
    | some num =>
        cases below : Decimal.read? after with
        | none => rfl
        | some den =>
            obtain ⟨left, rfl, -⟩ := (Decimal.read?_eq_some_iff before num).mp above
            obtain ⟨right, rfl, -⟩ := (Decimal.read?_eq_some_iff after den).mp below
            exact absurd rfl (other ⟨left, some right⟩)
  · rw [ofText_of_notMem slash]
    cases read : Decimal.read? text with
    | none => rfl
    | some whole =>
        obtain ⟨numeral, rfl, -⟩ := (Decimal.read?_eq_some_iff text whole).mp read
        exact absurd rfl (other ⟨numeral, none⟩)

/-- A text spells a fraction, spells one over zeros or spells none. -/
theorem exists_spelling_or_forall_ne (text : Text) :
    (∃ spelling : Spelling, spelling.text = text ∧ ¬ spelling.DividesByZero) ∨
      (∃ spelling : Spelling, spelling.text = text ∧ spelling.DividesByZero) ∨
      ∀ spelling : Spelling, spelling.text ≠ text := by
  by_cases spelled : ∃ spelling : Spelling, spelling.text = text
  · obtain ⟨spelling, written⟩ := spelled
    by_cases zeros : spelling.DividesByZero
    · exact .inr (.inl ⟨spelling, written, zeros⟩)
    · exact .inl ⟨spelling, written, zeros⟩
  · exact .inr (.inr (not_exists.mp spelled))

/-- Reading accepts the spellings that do not divide by zero and returns the lowest
terms of their values. -/
theorem ofText_eq_ok_iff (text : Text) (value : Fraction) :
    ofText text = .ok value ↔
      ∃ spelling : Spelling, spelling.text = text ∧ ¬ spelling.DividesByZero ∧
        value.IsReduced ∧ value.toRat = spelling.value := by
  constructor
  · intro read
    rcases exists_spelling_or_forall_ne text with
      ⟨spelling, rfl, defined⟩ | ⟨spelling, rfl, zeros⟩ | other
    · rw [ofText_text defined, Except.ok.injEq] at read
      subst read
      exact ⟨spelling, rfl, defined, isReduced_ofRat _, toRat_ofRat _⟩
    · rw [ofText_text_of_dividesByZero zeros] at read
      contradiction
    · rw [ofText_of_forall_ne other] at read
      contradiction
  · rintro ⟨spelling, rfl, defined, reduced, same⟩
    rw [ofText_text defined, ← same, reduced.ofRat_toRat]

/-- It fails with a division by zero for the other spellings, and with the text
itself for everything else. -/
theorem ofText_eq_error_iff (text : Text) (fault : Fault) :
    ofText text = .error fault ↔
      (fault = .divisionByZero ∧
          ∃ spelling : Spelling, spelling.text = text ∧ spelling.DividesByZero) ∨
        (fault = .notFraction text ∧ ∀ spelling : Spelling, spelling.text ≠ text) := by
  constructor
  · intro failed
    rcases exists_spelling_or_forall_ne text with
      ⟨spelling, rfl, defined⟩ | ⟨spelling, rfl, zeros⟩ | other
    · rw [ofText_text defined] at failed
      contradiction
    · rw [ofText_text_of_dividesByZero zeros, Except.error.injEq] at failed
      exact .inl ⟨failed.symm, spelling, rfl, zeros⟩
    · rw [ofText_of_forall_ne other, Except.error.injEq] at failed
      exact .inr ⟨failed.symm, other⟩
  · rintro (⟨rfl, spelling, rfl, zeros⟩ | ⟨rfl, other⟩)
    · exact ofText_text_of_dividesByZero zeros
    · exact ofText_of_forall_ne other

/-- What reading accepts, with which value, and what it refuses, with which fault. -/
theorem ofText_exact (text : Text) :
    (∀ value, ofText text = .ok value ↔
        ∃ spelling : Spelling, spelling.text = text ∧ ¬ spelling.DividesByZero ∧
          value.IsReduced ∧ value.toRat = spelling.value) ∧
      ∀ fault, ofText text = .error fault ↔
        (fault = .divisionByZero ∧
            ∃ spelling : Spelling, spelling.text = text ∧ spelling.DividesByZero) ∨
          (fault = .notFraction text ∧ ∀ spelling : Spelling, spelling.text ≠ text) :=
  ⟨ofText_eq_ok_iff text, ofText_eq_error_iff text⟩

/-- A sign on either side and leading zeros are read; a second slash, an empty
side, a plus sign, a space, a separator and a digit outside ASCII are not. -/
example :
    ofText "-0014/-6".toList = .ok ⟨7, 3⟩ ∧
      ∀ text ∈ ["1/2/3", "1/", "/2", "", "-", "+4", " 1", "1_0", "٣"].map String.toList,
        ofText text = .error (.notFraction text) := by
  decide

end FractionCalculator.Fraction
