import FractionCalculator.Proofs.Expression.Computation
import FractionCalculator.Proofs.Fraction.RoundTrip

/-!
# What a fold depends on

A fold sees an operand only through the fraction or the fault that it resolves
to. So two folds agree, step by step, if their words are the same in operator
position and resolve alike in operand position, be it in the same registers or
in different ones. In particular the written form of a fraction in lowest terms
stands for the fraction itself in all registers.
-/

namespace FractionCalculator

theorem Fraction.IsReduced.exists_operand {value : Fraction} (reduced : value.IsReduced) :
    ∃ operand : Operand, operand.text = value.toText ∧
      ∀ registers, operand.fraction registers = value := by
  have defined : ¬ value.literal.DividesByZero := by
    rw [← Literal.den_eq_zero_iff, den_literal]
    exact reduced.1.ne'
  refine ⟨.literal value.literal defined, value.text_literal, fun registers => ?_⟩
  rw [Operand.fraction, num_literal, den_literal]
  exact reduced.ofRat_toRat

namespace Registers

/-- Of the registers, a word in operand position depends only on the one that it
names. -/
theorem operand_eq_of_get_eq {first second : Registers} {word : Text}
    (agree : ∀ register : Register, word = [register.letter] →
      first.get register = second.get register) :
    first.operand word = second.operand word := by
  rcases exists_operand_or_refused word with ⟨operand, rfl⟩ | ⟨fault, refused⟩
  · rw [operand_text_eq, operand_text_eq]
    cases operand with
    | literal => rfl
    | register named => rw [Operand.fraction, Operand.fraction, agree named rfl]
  · rw [operand_of_refused _ refused, operand_of_refused _ refused]

/-- A register is read only by its own letter. -/
theorem operand_set_of_ne (registers : Registers) {register : Register} (value : Fraction)
    {word : Text} (other : word ≠ [register.letter]) :
    (registers.set register value).operand word = registers.operand word := by
  refine operand_eq_of_get_eq fun named letter => ?_
  rw [get_set, if_neg]
  rintro rfl
  exact other letter

/-- Words in operator position first that two folds cannot tell apart. -/
inductive Alike (first second : Registers) : List Text → List Text → Prop where
  | nil : Alike first second [] []
  | lone (word : Text) : Alike first second [word] [word]
  | pair (operator : Text) {operand other : Text} {rest otherRest : List Text}
      (same : first.operand operand = second.operand other)
      (later : Alike first second rest otherRest) :
      Alike first second (operator :: operand :: rest) (operator :: other :: otherRest)

/-- Words that resolve alike wherever they stand in operand position. -/
theorem alike_of_operand_eq_at {first second : Registers} :
    ∀ words : List Text,
      (∀ position word, position % 2 = 1 → words[position]? = some word →
        first.operand word = second.operand word) →
      Alike first second words words
  | [], _ => .nil
  | [word], _ => .lone word
  | operator :: operand :: rest, agree =>
      .pair operator (agree 1 operand rfl rfl)
        (alike_of_operand_eq_at rest fun position word odd =>
          agree (position + 2) word (by omega))

theorem alike_of_operand_eq {first second : Registers} (words : List Text)
    (agree : ∀ word ∈ words, first.operand word = second.operand word) :
    Alike first second words words :=
  alike_of_operand_eq_at words fun _ word _ found => agree word (List.mem_of_getElem? found)

/-- Words that are changed in operand position only, to words that resolve
alike. -/
theorem alike_mapIdx {first second : Registers} {change : Nat → Text → Text}
    (operators : ∀ position word, position % 2 = 0 → change position word = word)
    (operands : ∀ position word, position % 2 = 1 →
      first.operand word = second.operand (change position word)) :
    ∀ words : List Text, Alike first second words (words.mapIdx change)
  | [] => .nil
  | [word] => by
      rw [List.mapIdx_cons, operators 0 word rfl]
      exact .lone word
  | operator :: operand :: rest => by
      rw [List.mapIdx_cons, List.mapIdx_cons, operators 0 operator rfl]
      refine .pair operator (operands 1 operand rfl) (alike_mapIdx ?_ ?_ rest)
      · exact fun position word even => operators (position + 2) word (by omega)
      · exact fun position word odd => operands (position + 2) word (by omega)

theorem step_eq_of_operand_eq {first second : Registers} {operand other : Text}
    (same : first.operand operand = second.operand other) (value : Fraction) (operator : Text) :
    first.step value operator operand = second.step value operator other := by
  simp only [step, same]

/-- Folds over words that resolve alike take the same steps to the same end. -/
theorem fold_eq_of_alike {first second : Registers} {words other : List Text}
    (alike : Alike first second words other) (value : Fraction) :
    first.fold value words = second.fold value other := by
  induction alike generalizing value with
  | nil => rfl
  | lone word => rfl
  | pair operator same later inductionHypothesis =>
      simp only [fold, step_eq_of_operand_eq same, inductionHypothesis]

end Registers

end FractionCalculator
