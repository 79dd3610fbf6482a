import FractionCalculator.Proofs.Token.Literal

/-!
# Words as tokens

`Spells` says which word writes which token, without a scanner: a literal by its
spelling, every other token by its single character. Taking the longest token
off the front of a word and asking for nothing to be left recognises exactly
these words.
-/

namespace FractionCalculator

namespace Token

/-- The words that write a token. -/
inductive Spells : Token → Text → Prop where
  | literal (literal : Literal) : Spells (.literal literal.text) literal.text
  | register (register : Register) : Spells (.register register) [register.letter]
  | capital {letter : Char} (upper : letter.isUpper = true) : Spells (.capital letter) [letter]
  | operator (operator : Operator) : Spells (.operator operator) [operator.symbol]

end Token

/-! ## The kinds of characters exclude each other -/

namespace Register

theorem isDigit_letter (register : Register) : register.letter.isDigit = false := by
  rcases register with ⟨index⟩
  revert index
  decide

theorem isUpper_letter (register : Register) : register.letter.isUpper = false := by
  rcases register with ⟨index⟩
  revert index
  decide

theorem letter_ne_space (register : Register) : register.letter ≠ ' ' := by
  rcases register with ⟨index⟩
  revert index
  decide

theorem letter_ne_symbol (register : Register) (operator : Operator) :
    register.letter ≠ operator.symbol := by
  rcases register with ⟨index⟩
  cases operator <;> (revert index; decide)

end Register

namespace Operator

theorem isDigit_symbol (operator : Operator) : operator.symbol.isDigit = false := by
  cases operator <;> rfl

theorem isUpper_symbol (operator : Operator) : operator.symbol.isUpper = false := by
  cases operator <;> rfl

theorem ofChar?_eq_none_iff (char : Char) :
    ofChar? char = none ↔ ∀ operator : Operator, char ≠ operator.symbol := by
  rw [Option.eq_none_iff_forall_ne_some]
  exact forall_congr' fun operator => not_congr (ofChar?_eq_some_iff char operator)

end Operator

theorem Register.ofChar?_eq_none_iff (char : Char) :
    Register.ofChar? char = none ↔ ∀ register : Register, char ≠ register.letter := by
  rw [Option.eq_none_iff_forall_ne_some]
  exact forall_congr' fun register => not_congr (Register.ofChar?_eq_some_iff char register)

theorem isDigit_of_isUpper {char : Char} (upper : char.isUpper = true) :
    char.isDigit = false := by
  have bounds : 'A'.val ≤ char.val ∧ char.val ≤ 'Z'.val := of_decide_eq_true upper
  have above : ¬ char.val ≤ 57 := by
    rw [UInt32.not_le]
    exact UInt32.lt_of_lt_of_le (by decide) bounds.1
  simp [Char.isDigit, above]

namespace Token

/-! ## Single characters -/

/-- The characters that are tokens of their own, told apart by kind. -/
theorem ofChar?_eq_some_iff (char : Char) (token : Token) :
    ofChar? char = some token ↔
      (∃ register : Register, char = register.letter ∧ token = .register register) ∨
        (∃ operator : Operator, char = operator.symbol ∧ token = .operator operator) ∨
        (char.isUpper = true ∧ token = .capital char) := by
  unfold ofChar?
  cases named : Register.ofChar? char with
  | some register =>
      obtain rfl := (Register.ofChar?_eq_some_iff char register).mp named
      constructor
      · rintro ⟨⟩
        exact .inl ⟨register, rfl, rfl⟩
      · rintro (⟨other, same, rfl⟩ | ⟨operator, same, -⟩ | ⟨upper, -⟩)
        · rw [same, Register.ofChar?_letter, Option.some.injEq] at named
          rw [named]
        · exact absurd same (register.letter_ne_symbol operator)
        · rw [register.isUpper_letter] at upper
          contradiction
  | none =>
      have noLetter := (Register.ofChar?_eq_none_iff char).mp named
      cases written : Operator.ofChar? char with
      | some operator =>
          obtain rfl := (Operator.ofChar?_eq_some_iff char operator).mp written
          constructor
          · rintro ⟨⟩
            exact .inr (.inl ⟨operator, rfl, rfl⟩)
          · rintro (⟨register, same, -⟩ | ⟨other, same, rfl⟩ | ⟨upper, -⟩)
            · exact absurd same (noLetter register)
            · rw [same, Operator.ofChar?_symbol, Option.some.injEq] at written
              rw [written]
            · rw [operator.isUpper_symbol] at upper
              contradiction
      | none =>
          have noSymbol := (Operator.ofChar?_eq_none_iff char).mp written
          constructor
          · intro found
            by_cases upper : char.isUpper = true
            · rw [if_pos upper] at found
              exact .inr (.inr ⟨upper, (Option.some.inj found).symm⟩)
            · rw [if_neg upper] at found
              contradiction
          · rintro (⟨register, same, -⟩ | ⟨operator, same, -⟩ | ⟨upper, rfl⟩)
            · exact absurd same (noLetter register)
            · exact absurd same (noSymbol operator)
            · rw [if_pos upper]

theorem spells_of_ofChar?_eq_some {char : Char} {token : Token} (kind : ofChar? char = some token) :
    token.Spells [char] := by
  rcases (ofChar?_eq_some_iff char token).mp kind with
    ⟨register, rfl, rfl⟩ | ⟨operator, rfl, rfl⟩ | ⟨upper, rfl⟩
  · exact .register register
  · exact .operator operator
  · exact .capital upper

/-- A single character other than a digit is no literal. -/
theorem scanLiteral?_singleton {char : Char} (other : char.isDigit = false) :
    scanLiteral? [char] = none := by
  by_cases minus : char = '-'
  · subst minus
    rfl
  · rw [scanLiteral?_cons_of_ne minus, scanUnsigned?, digits]
    simp [other]

/-- A token of a single character is the token that its word is. -/
theorem ofWord?_singleton {char : Char} (other : char.isDigit = false) :
    ofWord? [char] = ofChar? char := by
  rw [ofWord?, scan?, scanLiteral?_singleton other]
  cases ofChar? char <;> rfl

/-! ## Whole words -/

/-- The longest token at the front of a word is all of the word exactly when the
word spells it. -/
theorem ofWord?_eq_some_iff_spells (word : Text) (token : Token) :
    ofWord? word = some token ↔ token.Spells word := by
  constructor
  · intro found
    rw [ofWord?_eq_some_iff, scan?.eq_def] at found
    split at found
    · rename_i spelling rest scanned
      simp only [Option.some.injEq, Prod.mk.injEq] at found
      obtain ⟨rfl, rfl⟩ := found
      obtain ⟨literal, rfl, rfl⟩ := Literal.exists_of_scanLiteral?_eq_some scanned
      rw [List.append_nil]
      exact .literal literal
    · split at found
      · contradiction
      · rename_i char rest unscanned
        obtain ⟨single, kind, same⟩ := Option.map_eq_some_iff.mp found
        simp only [Prod.mk.injEq] at same
        obtain ⟨rfl, rfl⟩ := same
        exact spells_of_ofChar?_eq_some kind
  · intro spells
    cases spells with
    | literal literal =>
        rw [ofWord?_eq_some_iff, scan?.eq_def, literal.scanLiteral?_text]
    | register register =>
        rw [ofWord?_singleton register.isDigit_letter, ofChar?_eq_some_iff]
        exact .inl ⟨register, rfl, rfl⟩
    | capital upper =>
        rw [ofWord?_singleton (isDigit_of_isUpper upper), ofChar?_eq_some_iff]
        exact .inr (.inr ⟨upper, rfl⟩)
    | operator operator =>
        rw [ofWord?_singleton operator.isDigit_symbol, ofChar?_eq_some_iff]
        exact .inr (.inl ⟨operator, rfl, rfl⟩)

/-- A word that is no token spells none. -/
theorem ofWord?_eq_none_iff (word : Text) :
    ofWord? word = none ↔ ∀ token : Token, ¬ token.Spells word := by
  rw [Option.eq_none_iff_forall_ne_some]
  exact forall_congr' fun token => not_congr (ofWord?_eq_some_iff_spells word token)

end Token

end FractionCalculator
