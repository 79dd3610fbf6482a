import FractionCalculator.Proofs.Session.Evaluation
import Mathlib.Data.List.Perm.Basic
import Mathlib.Data.Set.List

/-!
# Sums and products in any order

A line is computed from the left, and in general the order of its pairs matters. It
does not matter among additions and subtractions, nor among multiplications and
divisions: any two such pairs lead from a number to the same number in either order,
and a number has one fraction in lowest terms. The running values on the way differ
from one order to another, but no order avoids a divisor of zero, so that a line
which divides by zero does so in every order.
-/

namespace FractionCalculator

/-- The line that writes a first operand word and pairs of an operator and an operand
word. -/
def Text.ofPairs (first : Text) (pairs : List (Operator × Text)) : Text :=
  unwords (first :: pairs.flatMap fun pair => [[pair.1.symbol], pair.2])

/-! ## Like operators -/

namespace Operator

/-- Operators of which a sum is made, or operators of which a product is made. -/
def AreLike (operators : List Operator) : Prop :=
  (∀ operator ∈ operators, operator = add ∨ operator = sub) ∨
    ∀ operator ∈ operators, operator = mul ∨ operator = div

/-- Two like operators with their right operands may change places. -/
theorem AreLike.onRat_right_comm {operators : List Operator} (like : AreLike operators)
    {first second : Operator} (firstMember : first ∈ operators)
    (secondMember : second ∈ operators) (value left right : ℚ) :
    second.onRat (first.onRat value left) right =
      first.onRat (second.onRat value right) left := by
  rcases like with sum | product
  · rcases sum first firstMember with rfl | rfl <;>
      rcases sum second secondMember with rfl | rfl <;> simp only [onRat] <;> ring
  · rcases product first firstMember with rfl | rfl <;>
      rcases product second secondMember with rfl | rfl <;> simp only [onRat] <;> ring

end Operator

/-! ## Expressions with permuted pairs -/

namespace Expression

variable {pairs other : List Pair}

/-- The value of a sum or product does not depend on the order of its pairs. -/
theorem value_eq_of_perm (like : Operator.AreLike (pairs.map Pair.operator))
    (permuted : pairs.Perm other) (registers : Registers) (first : Operand) :
    value registers ⟨first, pairs⟩ = value registers ⟨first, other⟩ := by
  apply permuted.foldl_eq'
  intro pair member next nextMember reached
  exact like.onRat_right_comm (List.mem_map_of_mem member) (List.mem_map_of_mem nextMember) ..

theorem isDefined_iff_of_perm (permuted : pairs.Perm other) (registers : Registers)
    (first : Operand) :
    IsDefined registers ⟨first, pairs⟩ ↔ IsDefined registers ⟨first, other⟩ :=
  forall_congr' fun _ => imp_congr_left permuted.mem_iff

end Expression

namespace Pair

/-- Of pairs that are not all defined, one is the first to divide by zero. -/
theorem exists_first_zero_divisor {registers : Registers} {pairs : List Pair}
    (undefined : ¬ ∀ pair ∈ pairs, pair.IsDefined registers) :
    ∃ before operand after, pairs = before ++ ⟨.div, operand⟩ :: after ∧
      (∀ pair ∈ before, pair.IsDefined registers) ∧ operand.value registers = 0 := by
  induction pairs with
  | nil => simp at undefined
  | cons pair later inductionHypothesis =>
      by_cases defined : pair.IsDefined registers
      · rw [List.forall_mem_cons, and_iff_right defined] at undefined
        obtain ⟨before, operand, after, rfl, beforeDefined, zero⟩ :=
          inductionHypothesis undefined
        exact ⟨pair :: before, operand, after, rfl,
          List.forall_mem_cons.mpr ⟨defined, beforeDefined⟩, zero⟩
      · rw [IsDefined, Classical.not_imp, not_ne_iff] at defined
        rcases pair with ⟨operator, operand⟩
        obtain ⟨rfl, zero⟩ := defined
        exact ⟨[], operand, later, rfl, by simp, zero⟩

end Pair

/-! ## Pairs as they are written -/

namespace Pair

/-- The operator of a pair and the word of its operand. -/
def written (pair : Pair) : Operator × Text :=
  (pair.operator, pair.operand.text)

/-- Pairs whose words have a value are written by pairs with operands. -/
theorem exists_map_written_eq {registers : Registers} {pairs : List (Operator × Text)}
    (resolved : ∀ pair ∈ pairs, ∃ value, registers.operand pair.2 = .ok value) :
    ∃ read, List.map written read = pairs := by
  have members : ∀ pair ∈ pairs, pair ∈ Set.range written := by
    rintro ⟨operator, word⟩ member
    obtain ⟨value, found⟩ := resolved _ member
    obtain ⟨operand, rfl⟩ := Registers.exists_operand_of_eq_ok found
    exact ⟨⟨operator, operand⟩, rfl⟩
  rwa [← Set.mem_range, Set.range_list_map]

theorem exists_perm_of_map_written_perm {read : List Pair} {other : List (Operator × Text)}
    (permuted : (read.map written).Perm other) :
    ∃ readOther, readOther.map written = other ∧ read.Perm readOther := by
  have composed : Relation.Comp (· = List.map written ·) List.Perm other read := by
    rw [List.eq_map_comp_perm]
    exact permuted.symm
  obtain ⟨readOther, rfl, moved⟩ := composed
  exact ⟨readOther, rfl, moved.symm⟩

end Pair

theorem Fraction.ofRat_eq_zero_iff (value : ℚ) : ofRat value = 0 ↔ value = 0 := by
  constructor
  · intro zero
    rw [← toRat_ofRat value, zero, toRat_zero]
  · rintro rfl
    rfl

/-- An expression has no value exactly if it writes a division by a word with the
value zero. -/
theorem Expression.not_isDefined_iff {registers : Registers} (reduced : registers.IsReduced)
    (expression : Expression) :
    ¬ expression.IsDefined registers ↔
      ∃ pair ∈ expression.pairs.map Pair.written,
        pair.1 = .div ∧ registers.operand pair.2 = .ok 0 := by
  have divides : ∀ pair : Pair, ¬ pair.IsDefined registers ↔
      pair.written.1 = .div ∧ registers.operand pair.written.2 = .ok 0 := by
    intro pair
    rw [Pair.IsDefined, Classical.not_imp, not_ne_iff, Pair.written,
      Registers.operand_text reduced, Except.ok.injEq, Fraction.ofRat_eq_zero_iff]
  simp only [IsDefined, not_forall, exists_prop, divides, List.mem_map,
    exists_exists_and_eq_and]

theorem Text.ofPairs_written (first : Operand) (pairs : List Pair) :
    ofPairs first.text (pairs.map Pair.written) = Expression.text ⟨first, pairs⟩ := by
  rw [ofPairs, List.flatMap_map]
  exact unwords_cons_flatMap first.text pairs

/-! ## Lines with permuted pairs -/

namespace Session

variable {session : Session} (reduced : session.registers.IsReduced)
include reduced

/-- A line that writes an expression without a value fails at its first divisor of
zero. -/
theorem result_evaluate_text_of_not_isDefined {expression : Expression}
    (undefined : ¬ expression.IsDefined session.registers) :
    (session.evaluate expression.text).result = .error .divisionByZero := by
  obtain ⟨before, operand, after, split, defined, zero⟩ :=
    Pair.exists_first_zero_divisor undefined
  have words : Text.words expression.text =
      Expression.words ⟨expression.first, before⟩ ++
        ([Operator.div.symbol] :: operand.text :: after.flatMap Pair.words) := by
    rw [(expression.words_eq_words_iff _).mpr ⟨0, (List.append_nil _).symm⟩, Expression.words,
      split, List.flatMap_append, List.flatMap_cons]
    rfl
  have noOperatorAtEnd := expression.getLast?_text_append_ne 0
  rw [List.replicate_zero, List.append_nil] at noOperatorAtEnd
  exact (evaluate_of_failure reduced (.pair noOperatorAtEnd words defined (.zeroDivisor zero))).1

theorem result_evaluate_text_of_isDefined {expression : Expression}
    (defined : expression.IsDefined session.registers) :
    (session.evaluate expression.text).result =
      .ok (.ofRat (expression.value session.registers)) := by
  have evaluated := (evaluate_text_append reduced defined 0).2
  rwa [List.replicate_zero, List.append_nil] at evaluated

/-- The result of a sum or product does not depend on the order of its pairs. -/
theorem result_evaluate_text_eq_of_perm {pairs other : List Pair}
    (like : Operator.AreLike (pairs.map Pair.operator)) (permuted : pairs.Perm other)
    (first : Operand) :
    (session.evaluate (Expression.text ⟨first, other⟩)).result =
      (session.evaluate (Expression.text ⟨first, pairs⟩)).result := by
  have sameValue := Expression.value_eq_of_perm like permuted session.registers first
  have sameDomain := Expression.isDefined_iff_of_perm permuted session.registers first
  by_cases defined : Expression.IsDefined session.registers ⟨first, pairs⟩
  · rw [result_evaluate_text_of_isDefined reduced defined,
      result_evaluate_text_of_isDefined reduced (sameDomain.mp defined), sameValue]
  · rw [result_evaluate_text_of_not_isDefined reduced defined,
      result_evaluate_text_of_not_isDefined reduced (mt sameDomain.mpr defined)]

/-- A line that writes a sum or a product has the same result for every order of its
pairs: one fraction, or a division by zero if some divisor has the value zero. -/
theorem evaluate_ofPairs_perm {first : Text} {pairs other : List (Operator × Text)}
    (firstResolved : ∃ value, session.registers.operand first = .ok value)
    (resolved : ∀ pair ∈ pairs, ∃ value, session.registers.operand pair.2 = .ok value)
    (like : Operator.AreLike (pairs.map Prod.fst)) (permuted : pairs.Perm other) :
    (session.evaluate (Text.ofPairs first other)).result =
        (session.evaluate (Text.ofPairs first pairs)).result ∧
      ((∃ value, (session.evaluate (Text.ofPairs first pairs)).result = .ok value) ∨
        (session.evaluate (Text.ofPairs first pairs)).result = .error .divisionByZero) ∧
      ((session.evaluate (Text.ofPairs first pairs)).result = .error .divisionByZero ↔
        ∃ pair ∈ pairs, pair.1 = .div ∧ session.registers.operand pair.2 = .ok 0) := by
  obtain ⟨value, found⟩ := firstResolved
  obtain ⟨operand, rfl⟩ := Registers.exists_operand_of_eq_ok found
  obtain ⟨read, rfl⟩ := Pair.exists_map_written_eq resolved
  obtain ⟨readOther, rfl, readPermuted⟩ := Pair.exists_perm_of_map_written_perm permuted
  rw [List.map_map] at like
  have undefined := Expression.not_isDefined_iff reduced ⟨operand, read⟩
  rw [Text.ofPairs_written, Text.ofPairs_written, ← undefined]
  refine ⟨result_evaluate_text_eq_of_perm reduced like readPermuted operand, ?_⟩
  by_cases defined : Expression.IsDefined session.registers ⟨operand, read⟩
  · have evaluated := result_evaluate_text_of_isDefined reduced defined
    exact ⟨.inl ⟨_, evaluated⟩, by simp [evaluated, defined]⟩
  · have failed := result_evaluate_text_of_not_isDefined reduced defined
    exact ⟨.inr failed, iff_of_true failed defined⟩

omit reduced in
/-- A register, a negative divisor that is not in lowest terms and a whole number in
the opposite order, and a divisor of zero that is met last and first. -/
theorem evaluate_ofPairs_perm_seven_thirds :
    let session : Session := ⟨Registers.zero.set ⟨2⟩ ⟨7, 3⟩, 0⟩
    let pairs : List (Operator × Text) := [(.mul, ['c']), (.div, "-4/6".toList), (.mul, ['3'])]
    session.registers.IsReduced ∧
      (∃ value, session.registers.operand "1/2".toList = .ok value) ∧
      (∀ pair ∈ pairs, ∃ value, session.registers.operand pair.2 = .ok value) ∧
      Operator.AreLike (pairs.map Prod.fst) ∧ pairs.Perm pairs.reverse ∧
      (session.evaluate "1/2 * 3 / -4/6 * c".toList).result = .ok ⟨-21, 4⟩ ∧
      (session.evaluate "1/2 / a * c".toList).result = .error .divisionByZero := by
  intro session pairs
  have reduced : session.registers.IsReduced := Registers.isReduced_zero.set ⟨2⟩ (by decide)
  have firstResolved : ∃ value, session.registers.operand "1/2".toList = .ok value := ⟨_, rfl⟩
  have resolved : ∀ pair ∈ pairs, ∃ value, session.registers.operand pair.2 = .ok value := by
    simp only [pairs, List.forall_mem_cons]
    exact ⟨⟨_, rfl⟩, ⟨_, rfl⟩, ⟨_, rfl⟩, by simp⟩
  have like : Operator.AreLike (pairs.map Prod.fst) := .inr (by simp [pairs])
  have permuted : pairs.Perm pairs.reverse := pairs.reverse_perm.symm
  have given : (session.evaluate (Text.ofPairs "1/2".toList pairs)).result = .ok ⟨-21, 4⟩ := by
    decide
  have evaluated := (evaluate_ofPairs_perm reduced firstResolved resolved like permuted).1
  let divided : List (Operator × Text) := [(.mul, ['c']), (.div, ['a'])]
  have dividedResolved :
      ∀ pair ∈ divided, ∃ value, session.registers.operand pair.2 = .ok value := by
    simp only [divided, List.forall_mem_cons]
    exact ⟨⟨_, rfl⟩, ⟨_, rfl⟩, by simp⟩
  have zero : ∃ pair ∈ divided, pair.1 = .div ∧ session.registers.operand pair.2 = .ok 0 :=
    ⟨(.div, ['a']), by simp [divided], rfl, rfl⟩
  obtain ⟨same, -, failed⟩ := evaluate_ofPairs_perm reduced firstResolved dividedResolved
    (.inr (by simp [divided])) divided.reverse_perm.symm
  exact ⟨reduced, firstResolved, resolved, like, permuted, evaluated.trans given,
    same.trans (failed.mpr zero)⟩

/-- An addition and a multiplication may not change places. -/
example : (fresh.evaluate "1 + 2 * 3".toList).result ≠
    (fresh.evaluate "1 * 3 + 2".toList).result := by
  decide

end Session

end FractionCalculator
