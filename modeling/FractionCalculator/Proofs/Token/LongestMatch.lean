import FractionCalculator.Proofs.Token.Spelling

/-!
# Longest match

Scanning takes the longest token off the front of a text: what it leaves cannot be
drawn into any token. `Tokenizes` says into which tokens a text falls when this is
done again and again, without mention of the scanner. A word is a token when it
falls into that token alone. The patterns overlap, for a literal may begin like a
minus sign and stop before a slash, but no longest match hides a token that is the
whole word: recognising single tokens is matching whole words.
-/

namespace FractionCalculator

namespace Token

/-- A token is spelled at the front of a text, and no longer beginning of the text
spells any token. -/
structure IsLongest (text : Text) (token : Token) (spelling rest : Text) : Prop where
  split : text = spelling ++ rest
  spells : token.Spells spelling
  longest : ∀ (other : Token) (beginning : Text), other.Spells beginning → beginning <+: text →
    beginning.length ≤ spelling.length

/-- The tokens that a text falls into if the longest one is always taken. -/
inductive Tokenizes : Text → List Token → Prop where
  | done : Tokenizes [] []
  | next {text spelling rest : Text} {token : Token} {later : List Token}
      (longest : IsLongest text token spelling rest) (continues : Tokenizes rest later) :
      Tokenizes text (token :: later)

/-- A word spells one token at most. -/
theorem Spells.token_eq {token other : Token} {word : Text} (spells : token.Spells word)
    (otherSpells : other.Spells word) : token = other := by
  rw [← ofWord?_eq_some_iff_spells] at spells otherSpells
  rw [spells, Option.some.injEq] at otherSpells
  exact otherSpells

theorem Spells.ne_nil {token : Token} {word : Text} (spells : token.Spells word) : word ≠ [] := by
  rintro rfl
  rw [← ofWord?_eq_some_iff_spells] at spells
  contradiction

/-! ## Scanning goes on as far as it can -/

theorem digits_append_of_isDigits {all : Text} (isDigits_all : Decimal.isDigits all = true)
    (after : Text) : digits (all ++ after) = (all ++ (digits after).1, (digits after).2) := by
  have each := ((Decimal.isDigits_iff all).mp isDigits_all).2
  rw [digits, List.takeWhile_append_of_pos each, List.dropWhile_append_of_pos each]
  rfl

/-- Digits at the front are a beginning of what is scanned. -/
theorem exists_scanUnsigned?_eq_some {text : Text} (nonempty : (digits text).1 ≠ []) :
    ∃ more rest, scanUnsigned? text = some ((digits text).1 ++ more, rest) := by
  unfold scanUnsigned?
  split
  · rename_i found
    rw [found] at nonempty
    exact absurd rfl nonempty
  · rename_i above after found
    rw [found]
    split
    · exact ⟨[], _, by rw [List.append_nil]⟩
    · exact ⟨_, _, rfl⟩
  · rename_i above after found
    rw [found]
    exact ⟨[], _, by rw [List.append_nil]⟩

end Token

namespace Literal

variable (literal : Literal) (after : Text)

/-- A scan that meets an unsigned literal takes all of it and perhaps more. -/
theorem exists_scanUnsigned?_append :
    ∃ more rest, Token.scanUnsigned? (literal.unsigned ++ after) =
      some (literal.unsigned ++ more, rest) := by
  have isDigits_above := literal.isDigits_above
  have isDigits_below := literal.isDigits_below
  unfold unsigned
  cases found : literal.below with
  | none =>
      have taken := Token.digits_append_of_isDigits isDigits_above after
      have nonempty : (Token.digits (literal.above ++ after)).1 ≠ [] := by
        rw [taken]
        exact List.append_ne_nil_of_left_ne_nil literal.above_spelled.1 _
      obtain ⟨more, rest, scanned⟩ := Token.exists_scanUnsigned?_eq_some nonempty
      rw [taken, List.append_assoc] at scanned
      exact ⟨_, rest, scanned⟩
  | some digits =>
      have first : Token.digits (literal.above ++ '/' :: (digits ++ after)) =
          (literal.above, '/' :: (digits ++ after)) :=
        Token.digits_append_eq isDigits_above rfl
      have taken := Token.digits_append_of_isDigits (isDigits_below digits found) after
      obtain ⟨digit, others, above, -⟩ := Decimal.exists_cons_of_isDigits isDigits_above
      obtain ⟨digitBelow, othersBelow, rfl, -⟩ :=
        Decimal.exists_cons_of_isDigits (isDigits_below digits found)
      refine ⟨(Token.digits after).1, (Token.digits after).2, ?_⟩
      rw [above] at first ⊢
      simp only [List.append_assoc, List.cons_append, Token.scanUnsigned?] at first taken ⊢
      simp only [first, taken, List.cons_append]

theorem exists_scanLiteral?_append :
    ∃ more rest, Token.scanLiteral? (literal.text ++ after) =
      some (literal.text ++ more, rest) := by
  obtain ⟨more, rest, scanned⟩ := literal.exists_scanUnsigned?_append after
  refine ⟨more, rest, ?_⟩
  unfold text
  split
  · rw [List.cons_append, Token.scanLiteral?_minus, scanned, Option.map_some, List.cons_append]
  · obtain ⟨first, others, spelled, digit⟩ := literal.exists_cons_unsigned
    have other : first ≠ '-' := by
      rintro rfl
      contradiction
    rw [← scanned, spelled, List.cons_append, Token.scanLiteral?_cons_of_ne other]

end Literal

namespace Token

theorem exists_spells_of_scan?_eq_some {text rest : Text} {token : Token}
    (scanned : scan? text = some (token, rest)) :
    ∃ spelling, token.Spells spelling ∧ text = spelling ++ rest := by
  rw [scan?.eq_def] at scanned
  split at scanned
  · rename_i spelling remaining found
    simp only [Option.some.injEq, Prod.mk.injEq] at scanned
    obtain ⟨rfl, rfl⟩ := scanned
    obtain ⟨literal, rfl, rfl⟩ := Literal.exists_of_scanLiteral?_eq_some found
    exact ⟨literal.text, .literal literal, rfl⟩
  · split at scanned
    · contradiction
    · rename_i char others unscanned
      obtain ⟨single, kind, same⟩ := Option.map_eq_some_iff.mp scanned
      simp only [Prod.mk.injEq] at same
      obtain ⟨rfl, rfl⟩ := same
      exact ⟨[char], spells_of_ofChar?_eq_some kind, rfl⟩

/-- Where a token of a single character is spelled, it or a literal is scanned. -/
theorem exists_scan?_cons {char : Char} {token : Token} (kind : ofChar? char = some token)
    (after : Text) :
    ∃ found rest, scan? (char :: after) = some (found, rest) ∧ rest.length ≤ after.length := by
  rw [scan?.eq_def]
  cases scanned : scanLiteral? (char :: after) with
  | none => exact ⟨token, after, by simp only [kind, Option.map_some], Nat.le_refl _⟩
  | some taken =>
      obtain ⟨literal, spelled, split⟩ := Literal.exists_of_scanLiteral?_eq_some scanned
      have nonempty := List.length_pos_iff.mpr (Spells.literal literal).ne_nil
      have lengths := congrArg List.length split
      rw [List.length_cons, List.length_append, ← spelled] at lengths
      exact ⟨_, taken.2, rfl, by omega⟩

/-- Where some token is spelled, one is scanned that leaves no more of the text. -/
theorem Spells.exists_scan?_append {token : Token} {beginning : Text}
    (spells : token.Spells beginning) (after : Text) :
    ∃ found rest, scan? (beginning ++ after) = some (found, rest) ∧
      rest.length ≤ after.length := by
  cases spells with
  | literal literal =>
      obtain ⟨more, rest, scanned⟩ := literal.exists_scanLiteral?_append after
      obtain ⟨-, -, split⟩ := Literal.exists_of_scanLiteral?_eq_some scanned
      have lengths := congrArg List.length split
      simp only [List.length_append] at lengths
      exact ⟨_, rest, by rw [scan?.eq_def, scanned], by omega⟩
  | register register =>
      exact exists_scan?_cons ((ofChar?_eq_some_iff _ _).mpr (.inl ⟨register, rfl, rfl⟩)) after
  | capital upper =>
      exact exists_scan?_cons ((ofChar?_eq_some_iff _ _).mpr (.inr (.inr ⟨upper, rfl⟩))) after
  | operator operator =>
      exact exists_scan?_cons
        ((ofChar?_eq_some_iff _ _).mpr (.inr (.inl ⟨operator, rfl, rfl⟩))) after

/-- Scanning is taking the longest token off the front. -/
theorem scan?_eq_some_iff (text : Text) (token : Token) (rest : Text) :
    scan? text = some (token, rest) ↔ ∃ spelling, IsLongest text token spelling rest := by
  constructor
  · intro scanned
    obtain ⟨spelling, spells, split⟩ := exists_spells_of_scan?_eq_some scanned
    refine ⟨spelling, split, spells, ?_⟩
    rintro other beginning otherSpells ⟨after, written⟩
    obtain ⟨found, remaining, again, shorter⟩ := otherSpells.exists_scan?_append after
    rw [written, scanned, Option.some.injEq, Prod.mk.injEq] at again
    have lengths := congrArg List.length (written.trans split)
    rw [List.length_append, List.length_append, again.2] at lengths
    omega
  · rintro ⟨spelling, rfl, spells, longest⟩
    obtain ⟨found, remaining, scanned, shorter⟩ := spells.exists_scan?_append rest
    obtain ⟨taken, takenSpells, split⟩ := exists_spells_of_scan?_eq_some scanned
    have noLonger := longest found taken takenSpells ⟨remaining, split.symm⟩
    have lengths := congrArg List.length split
    rw [List.length_append, List.length_append] at lengths
    obtain ⟨rfl, rfl⟩ := List.append_inj split (by omega)
    rw [scanned, takenSpells.token_eq spells]

/-! ## Words of one token -/

/-- A text falls into tokens in one way at most. -/
theorem Tokenizes.eq {text : Text} {tokens others : List Token} (first : Tokenizes text tokens)
    (second : Tokenizes text others) : tokens = others := by
  induction first generalizing others with
  | done =>
      cases second with
      | done => rfl
      | next longest continues =>
          exact absurd (List.append_eq_nil_iff.mp longest.split.symm).1 longest.spells.ne_nil
  | @next text spelling rest token later longest continues inductionHypothesis =>
      cases second with
      | done => exact absurd (List.append_eq_nil_iff.mp longest.split.symm).1 longest.spells.ne_nil
      | next otherLongest otherContinues =>
          have scanned := (scan?_eq_some_iff text _ _).mpr ⟨_, longest⟩
          have again := (scan?_eq_some_iff text _ _).mpr ⟨_, otherLongest⟩
          rw [scanned, Option.some.injEq, Prod.mk.injEq] at again
          obtain ⟨rfl, rfl⟩ := again
          rw [inductionHypothesis otherContinues]

/-- A word is a token exactly when it falls into that token alone. -/
theorem ofWord?_eq_some_iff_tokenizes (word : Text) (token : Token) :
    ofWord? word = some token ↔ Tokenizes word [token] := by
  rw [ofWord?_eq_some_iff, scan?_eq_some_iff]
  constructor
  · rintro ⟨spelling, longest⟩
    exact .next longest .done
  · intro falls
    cases falls with
    | next longest continues =>
        cases continues
        exact ⟨_, longest⟩

/-- Every character of a token begins a token. -/
theorem Spells.exists_spells_cons {token : Token} {word : Text} (spells : token.Spells word)
    {char : Char} (member : char ∈ word) :
    ∃ (other : Token) (rest : Text), other.Spells (char :: rest) := by
  cases spells with
  | literal literal =>
      by_cases digit : char.isDigit = true
      · have isDigits : Decimal.isDigits [char] = true := by simp [Decimal.isDigits, digit]
        let single : Literal :=
          ⟨false, [char], none, (Decimal.isDigits_iff_between _).mp isDigits, by simp⟩
        exact ⟨_, [], .literal single⟩
      by_cases minus : char = '-'
      · subst minus
        exact ⟨_, [], .operator .sub⟩
      by_cases slash : char = '/'
      · subst slash
        exact ⟨_, [], .operator .div⟩
      · rw [Bool.not_eq_true] at digit
        exact absurd member (literal.notMem_text digit minus slash)
  | register register =>
      obtain rfl := List.mem_singleton.mp member
      exact ⟨_, [], .register register⟩
  | capital upper =>
      obtain rfl := List.mem_singleton.mp member
      exact ⟨_, [], .capital upper⟩
  | operator operator =>
      obtain rfl := List.mem_singleton.mp member
      exact ⟨_, [], .operator operator⟩

theorem spells_literal_iff (spelling word : Text) :
    (literal spelling).Spells word ↔
      spelling = word ∧ ∃ literal : Literal, literal.text = word := by
  constructor
  · rintro ⟨literal⟩
    exact ⟨rfl, literal, rfl⟩
  · rintro ⟨rfl, literal, rfl⟩
    exact .literal literal

theorem spells_register_iff (named : Register) (word : Text) :
    (register named).Spells word ↔ word = [named.letter] := by
  constructor
  · rintro ⟨⟩
    rfl
  · rintro rfl
    exact .register named

theorem spells_capital_iff (letter : Char) (word : Text) :
    (capital letter).Spells word ↔ letter.isUpper = true ∧ word = [letter] := by
  constructor
  · intro spells
    cases spells with
    | capital upper => exact ⟨upper, rfl⟩
  · rintro ⟨upper, rfl⟩
    exact .capital upper

theorem spells_operator_iff (symbol : Operator) (word : Text) :
    (operator symbol).Spells word ↔ word = [symbol.symbol] := by
  constructor
  · rintro ⟨⟩
    rfl
  · rintro rfl
    exact .operator symbol

/-- A word is no token if it is neither a literal nor a letter nor an operator. -/
theorem ofWord?_eq_none_iff_forall_ne (word : Text) :
    ofWord? word = none ↔
      (∀ literal : Literal, word ≠ literal.text) ∧
        (∀ register : Register, word ≠ [register.letter]) ∧
        (∀ letter : Char, letter.isUpper = true → word ≠ [letter]) ∧
        ∀ operator : Operator, word ≠ [operator.symbol] := by
  rw [ofWord?_eq_none_iff]
  constructor
  · intro noToken
    refine ⟨?_, ?_, ?_, ?_⟩
    · rintro literal rfl
      exact noToken _ (.literal literal)
    · rintro register rfl
      exact noToken _ (.register register)
    · rintro letter upper rfl
      exact noToken _ (.capital upper)
    · rintro operator rfl
      exact noToken _ (.operator operator)
  · rintro ⟨noLiteral, noRegister, noCapital, noOperator⟩ token spells
    cases spells with
    | literal literal => exact noLiteral literal rfl
    | register register => exact noRegister register rfl
    | capital upper => exact noCapital _ upper rfl
    | operator operator => exact noOperator operator rfl

/-- Taking the longest token off a word and asking for nothing to be left is
matching the word as a whole: against a literal, a single letter or an operator.
No other word is a token, be it that it falls into several ones or that one of its
characters begins none. -/
theorem ofWord?_matches_whole (word : Text) :
    (∀ spelling, ofWord? word = some (.literal spelling) ↔
        spelling = word ∧ ∃ literal : Literal, literal.text = word) ∧
      (∀ register, ofWord? word = some (.register register) ↔ word = [register.letter]) ∧
      (∀ letter, ofWord? word = some (.capital letter) ↔
        letter.isUpper = true ∧ word = [letter]) ∧
      (∀ operator, ofWord? word = some (.operator operator) ↔ word = [operator.symbol]) ∧
      (ofWord? word = none ↔
        (∀ literal : Literal, word ≠ literal.text) ∧
          (∀ register : Register, word ≠ [register.letter]) ∧
          (∀ letter : Char, letter.isUpper = true → word ≠ [letter]) ∧
          ∀ operator : Operator, word ≠ [operator.symbol]) ∧
      (∀ token, ofWord? word = some token ↔ Tokenizes word [token]) ∧
      (∀ tokens, Tokenizes word tokens → 2 ≤ tokens.length → ofWord? word = none) ∧
      ∀ char ∈ word, (∀ token rest, ¬ Spells token (char :: rest)) → ofWord? word = none := by
  refine ⟨fun spelling => ?_, fun register => ?_, fun letter => ?_, fun operator => ?_,
    ofWord?_eq_none_iff_forall_ne word, ofWord?_eq_some_iff_tokenizes word, ?_, ?_⟩
  · rw [ofWord?_eq_some_iff_spells, spells_literal_iff]
  · rw [ofWord?_eq_some_iff_spells, spells_register_iff]
  · rw [ofWord?_eq_some_iff_spells, spells_capital_iff]
  · rw [ofWord?_eq_some_iff_spells, spells_operator_iff]
  · intro tokens falls several
    rw [Option.eq_none_iff_forall_ne_some]
    intro token found
    have alone := ((ofWord?_eq_some_iff_tokenizes word token).mp found).eq falls
    rw [← alone, List.length_singleton] at several
    contradiction
  · intro char member foreign
    rw [ofWord?_eq_none_iff]
    intro token spells
    obtain ⟨other, rest, begins⟩ := spells.exists_spells_cons member
    exact foreign other rest begins

/-- A minus sign behind a slash belongs to a literal of its own, so that the word
falls into three tokens; and no token begins with a question mark. -/
theorem ofWord?_matches_whole_three_tokens :
    Tokenizes "3/-6".toList
        [.literal "3".toList, .operator .div, .literal "-6".toList] ∧
      ofWord? "3/-6".toList = none ∧
      (∀ token rest, ¬ Spells token ('?' :: rest)) ∧ ofWord? "1?".toList = none := by
  obtain ⟨_, first⟩ := (scan?_eq_some_iff "3/-6".toList (.literal "3".toList) "/-6".toList).mp rfl
  obtain ⟨_, second⟩ := (scan?_eq_some_iff "/-6".toList (.operator .div) "-6".toList).mp rfl
  obtain ⟨_, third⟩ := (scan?_eq_some_iff "-6".toList (.literal "-6".toList) []).mp rfl
  have falls : Tokenizes "3/-6".toList
      [.literal "3".toList, .operator .div, .literal "-6".toList] :=
    .next first (.next second (.next third .done))
  have foreign : ∀ token rest, ¬ Spells token ('?' :: rest) := by
    intro token rest spells
    rw [← ofWord?_eq_some_iff_spells] at spells
    contradiction
  obtain ⟨-, -, -, -, -, -, several, -⟩ := ofWord?_matches_whole "3/-6".toList
  obtain ⟨-, -, -, -, -, -, -, other⟩ := ofWord?_matches_whole "1?".toList
  exact ⟨falls, several _ falls (by decide), foreign, other '?' (by decide) foreign⟩

/-- A slash or a sign that no digit follows is a token of its own. -/
example : ∀ word ∈ ["", "1/", "-a", "1+2", "--1"].map String.toList, ofWord? word = none := by
  decide

end Token

end FractionCalculator
