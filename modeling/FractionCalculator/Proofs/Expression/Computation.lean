import FractionCalculator.Proofs.Expression.Grammar
import Mathlib.Data.List.Chain

/-!
# Computing pairs from the left

`Computes` is what computing pairs from the left means: each pair is applied to
the value that the pairs before it have left, and the steps are noted on the
way. `Stops` says how it comes to an end: no word is left, the next words are no
pair, or the next pair has no result. A fold computes as many pairs as it can
and then stops, whatever the registers hold.
-/

namespace FractionCalculator

/-- The fraction that an operand stands for. -/
def Operand.fraction (registers : Registers) : Operand → Fraction
  | literal spelled _ => .ofRat (spelled.num / spelled.den)
  | register named => registers.get named

/-- The step that a pair takes from a running value. -/
def Pair.step (registers : Registers) (value : Fraction) (pair : Pair) : Step :=
  ⟨value, pair.operator, pair.operand.fraction registers⟩

namespace Registers

/-- From a running value, pairs are computed by some steps to another value. -/
inductive Computes (registers : Registers) :
    Fraction → List Pair → List Step → Fraction → Prop where
  | done (value : Fraction) : Computes registers value [] [] value
  | next {value next final : Fraction} {pair : Pair} {pairs : List Pair} {steps : List Step}
      (applied : (pair.step registers value).result = .ok next)
      (later : Computes registers next pairs steps final) :
      Computes registers value (pair :: pairs) (pair.step registers value :: steps) final

/-- Nothing more is computed from a running value: the words that are left, the
step that is noted in vain and the fault. -/
inductive Stops (registers : Registers) (value : Fraction) :
    List Text → List Step → Option Fault → Prop where
  | finished : Stops registers value [] [] none
  | noPair {rest : List Text} {fault : Fault} (nonempty : rest ≠ [])
      (noPair : ∀ pair later, rest ≠ Pair.words pair ++ later) :
      Stops registers value rest [] (some fault)
  | noResult {pair : Pair} {later : List Text} {fault : Fault}
      (failed : (pair.step registers value).result = .error fault) :
      Stops registers value (pair.words ++ later) [pair.step registers value] (some fault)

/-- Of some words, the longest expression at their front that has a value, the
words after it, the steps to its value and the value. -/
structure ComputesLongest (registers : Registers) (words : List Text) (longest : Expression)
    (rest : List Text) (steps : List Step) (value : Fraction) : Prop where
  /-- The expression stands at the front. -/
  split : words = longest.words ++ rest
  /-- Its first operand is added to zero, and its pairs are computed from there. -/
  computed : registers.Computes (0 + longest.first.fraction registers) longest.pairs steps value
  /-- If a pair comes after it, the pair has no result. -/
  longest : ∀ pair later, rest = Pair.words pair ++ later →
    ∃ fault, (pair.step registers value).result = .error fault

variable (registers : Registers)

/-! ## Single pairs -/

theorem operand_text_eq (operand : Operand) :
    registers.operand operand.text = .ok (operand.fraction registers) := by
  cases operand with
  | literal literal defined =>
      rw [Operand.text, operand_literal, if_neg (mt literal.den_eq_zero_iff.mp defined)]
      rfl
  | register register => exact registers.operand_register register

theorem operand_eq_error_iff (word : Text) (fault : Fault) :
    registers.operand word = .error fault ↔ Operand.Refused word fault := by
  constructor
  · intro failed
    rcases exists_operand_or_refused word with ⟨operand, rfl⟩ | ⟨actual, refused⟩
    · rw [operand_text_eq] at failed
      contradiction
    · rw [registers.operand_of_refused refused, Except.error.injEq] at failed
      exact failed ▸ refused
  · exact registers.operand_of_refused

theorem step_pair (value : Fraction) (pair : Pair) :
    registers.step value [pair.operator.symbol] pair.operand.text =
      .ok (pair.step registers value) := by
  simp only [Registers.step, operand_text_eq, Operator.ofWord_symbol]
  rfl

/-- A pair is determined by its words as far as its steps go. -/
theorem step_eq_of_words_eq (value : Fraction) {pair other : Pair}
    (words : pair.words = other.words) :
    pair.step registers value = other.step registers value := by
  have taken := registers.step_pair value pair
  have otherTaken := registers.step_pair value other
  simp only [Pair.words, List.cons.injEq, and_true] at words
  rw [words.1, words.2, otherTaken, Except.ok.injEq] at taken
  exact taken.symm

/-- Two words make a step exactly when they are those of a pair. -/
theorem step_eq_ok_iff (value : Fraction) (operator operand : Text) (step : Step) :
    registers.step value operator operand = .ok step ↔
      ∃ pair : Pair, pair.words = [operator, operand] ∧ pair.step registers value = step := by
  constructor
  · intro taken
    rcases exists_operand_or_refused operand with ⟨named, rfl⟩ | ⟨fault, refused⟩
    · by_cases symbol : ∃ known : Operator, operator = [known.symbol]
      · obtain ⟨known, rfl⟩ := symbol
        simp only [Registers.step, operand_text_eq, Operator.ofWord_symbol,
          Except.ok.injEq] at taken
        exact ⟨⟨known, named⟩, rfl, taken⟩
      · simp only [Registers.step, operand_text_eq,
          Operator.ofWord_of_ne (not_exists.mp symbol)] at taken
        contradiction
    · simp only [Registers.step, operand_of_refused registers refused] at taken
      contradiction
  · rintro ⟨pair, words, rfl⟩
    cases words
    exact registers.step_pair value pair

/-- Only a division by a zero fraction has no result. -/
theorem result_step_eq_error_iff (value : Fraction) (pair : Pair) (fault : Fault) :
    (pair.step registers value).result = .error fault ↔
      pair.operator = .div ∧ (pair.operand.fraction registers).num = 0 ∧
        fault = .divisionByZero :=
  pair.operator.apply_eq_error_iff value (pair.operand.fraction registers) fault

variable {registers}

/-- A pair at which computing stopped has no result, however it is read off the
words. -/
theorem Stops.exists_result_eq_error {value : Fraction} {pair : Pair} {later : List Text}
    {extra : List Step} {fault : Option Fault}
    (stops : registers.Stops value (pair.words ++ later) extra fault) :
    ∃ failure, fault = some failure ∧ (pair.step registers value).result = .error failure ∧
      extra = [pair.step registers value] := by
  generalize found : pair.words ++ later = rest at stops
  cases stops with
  | finished => cases found
  | noPair nonempty noPair => exact absurd found.symm (noPair pair later)
  | @noResult other otherLater failure failed =>
      have same : pair.step registers value = other.step registers value :=
        registers.step_eq_of_words_eq value (List.append_inj found rfl).1
      exact ⟨failure, rfl, by rw [same, failed], by rw [same]⟩

/-! ## Steps -/

section

variable {start final : Fraction} {pairs : List Pair} {steps : List Step}
  (computed : registers.Computes start pairs steps final)
include computed

/-- Every pair that is computed takes one step. -/
theorem Computes.length_steps : steps.length = pairs.length := by
  induction computed with
  | done value => rfl
  | next applied later inductionHypothesis => rw [List.length_cons, List.length_cons,
      inductionHypothesis]

theorem Computes.eq_of_steps_eq_nil (none : steps = []) : final = start := by
  cases computed with
  | done value => rfl
  | next applied later => cases none

theorem Computes.left_of_mem_head? : ∀ step ∈ steps.head?, step.left = start := by
  cases computed with
  | done value => simp
  | next applied later =>
      rintro step ⟨⟩
      rfl

theorem Computes.result_of_mem_getLast? : ∀ step ∈ steps.getLast?, step.result = .ok final := by
  induction computed with
  | done value => simp
  | next applied later inductionHypothesis =>
      cases later with
      | done value =>
          rintro step ⟨⟩
          exact applied
      | next nextApplied later =>
          rw [List.getLast?_cons_cons]
          exact inductionHypothesis

/-- Each step starts from the result of the one before it. -/
theorem Computes.isChain_steps : steps.IsChain fun step next => step.result = .ok next.left := by
  induction computed with
  | done value => exact .nil
  | next applied later inductionHypothesis =>
      rw [List.isChain_cons]
      refine ⟨fun step first => ?_, inductionHypothesis⟩
      rw [later.left_of_mem_head? step first]
      exact applied

variable {rest : List Text} {extra : List Step} {fault : Option Fault}
  (stops : registers.Stops final rest extra fault)
include stops

omit computed in
theorem Stops.left_of_mem_head? : ∀ step ∈ extra.head?, step.left = final := by
  cases stops with
  | finished => simp
  | noPair nonempty noPair => simp
  | noResult failed =>
      rintro step ⟨⟩
      rfl

/-- A step that is noted in vain comes after the others like one of them. -/
theorem Computes.isChain_append :
    (steps ++ extra).IsChain fun step next => step.result = .ok next.left := by
  rw [List.isChain_append]
  refine ⟨computed.isChain_steps, ?_, fun step last next first => ?_⟩
  · cases stops with
    | finished => exact .nil
    | noPair nonempty noPair => exact .nil
    | noResult failed => exact .singleton _
  · rw [stops.left_of_mem_head? next first]
    exact computed.result_of_mem_getLast? step last

theorem Computes.left_of_mem_head?_append :
    ∀ step ∈ (steps ++ extra).head?, step.left = start := by
  intro step first
  cases steps with
  | nil =>
      rw [← computed.eq_of_steps_eq_nil rfl]
      exact stops.left_of_mem_head? step first
  | cons earliest later => exact computed.left_of_mem_head? step first

end

/-! ## Lowest terms -/

section

variable (reduced : registers.IsReduced)
include reduced

theorem IsReduced.fraction_eq (operand : Operand) :
    operand.fraction registers = .ofRat (operand.value registers) := by
  cases operand with
  | literal literal defined => rfl
  | register register => exact (reduced register).ofRat_toRat.symm

theorem IsReduced.fraction (operand : Operand) : (operand.fraction registers).IsReduced := by
  rw [reduced.fraction_eq]
  exact Fraction.isReduced_ofRat _

/-- Adding the first operand of an expression to zero gives its fraction. -/
theorem IsReduced.zero_add_fraction (operand : Operand) :
    0 + operand.fraction registers = operand.fraction registers :=
  (reduced.fraction operand).zero_add_eq

theorem IsReduced.computes {start final : Fraction} {pairs : List Pair} {steps : List Step}
    (startReduced : start.IsReduced) (computed : registers.Computes start pairs steps final) :
    final.IsReduced ∧ ∀ step ∈ steps, step.left.IsReduced ∧ step.right.IsReduced := by
  induction computed with
  | done value => exact ⟨startReduced, by simp⟩
  | @next value next final pair pairs steps applied later inductionHypothesis =>
      have right := reduced.fraction pair.operand
      have nextReduced := Operator.isReduced_of_apply_eq_ok startReduced right applied
      rw [List.forall_mem_cons]
      exact ⟨(inductionHypothesis nextReduced).1, ⟨startReduced, right⟩,
        (inductionHypothesis nextReduced).2⟩

theorem IsReduced.stops {value : Fraction} (valueReduced : value.IsReduced) {rest : List Text}
    {extra : List Step} {fault : Option Fault} (stops : registers.Stops value rest extra fault) :
    ∀ step ∈ extra, step.left.IsReduced ∧ step.right.IsReduced := by
  cases stops with
  | finished => simp
  | noPair nonempty noPair => simp
  | @noResult pair later fault failed =>
      rw [List.forall_mem_singleton]
      exact ⟨valueReduced, reduced.fraction pair.operand⟩

end

/-! ## Folds -/

/-- A fold computes pairs at the front of its words to its value and stops at
the rest. -/
theorem exists_computes_fold (registers : Registers) (start : Fraction) (words : List Text) :
    ∃ pairs rest steps extra,
      words = List.flatMap Pair.words pairs ++ rest ∧
        registers.Computes start pairs steps (registers.fold start words).value ∧
        registers.Stops (registers.fold start words).value rest extra
          (registers.fold start words).fault ∧
        (registers.fold start words).steps = steps ++ extra := by
  induction start, words using Registers.fold.induct registers with
  | case1 value => exact ⟨[], [], [], [], rfl, .done value, .finished, rfl⟩
  | case2 value word =>
      refine ⟨[], [word], [], [], rfl, .done value, .noPair (List.cons_ne_nil _ _) ?_, rfl⟩
      intro pair later same
      cases same
  | case3 value operator operand rest fault refused =>
      simp only [Registers.fold, refused]
      refine ⟨[], _, [], [], rfl, .done value, .noPair (List.cons_ne_nil _ _) ?_, rfl⟩
      intro pair later same
      cases same
      rw [(registers.step_eq_ok_iff value _ _ _).mpr ⟨pair, rfl, rfl⟩] at refused
      contradiction
  | case4 value operator operand rest step taken fault failed =>
      obtain ⟨pair, words, rfl⟩ := (registers.step_eq_ok_iff value _ _ _).mp taken
      simp only [Registers.fold, taken, failed]
      exact ⟨[], pair.words ++ rest, [], _, by rw [words]; rfl, .done value, .noResult failed, rfl⟩
  | case5 value operator operand rest step taken next result inductionHypothesis =>
      obtain ⟨pair, words, rfl⟩ := (registers.step_eq_ok_iff value _ _ _).mp taken
      obtain ⟨pairs, tail, steps, extra, split, computed, stops, noted⟩ := inductionHypothesis
      simp only [Registers.fold, taken, result]
      refine ⟨pair :: pairs, tail, _, extra, ?_, .next result computed, stops, ?_⟩
      · rw [List.flatMap_cons, words, List.append_assoc, ← split]
        rfl
      · rw [noted, List.cons_append]

/-- A fold that goes through all its words is continued from its value. -/
theorem fold_append (registers : Registers) (start : Fraction) {earlier : List Text}
    (through : (registers.fold start earlier).fault = none) (later : List Text) :
    let reached := registers.fold start earlier
    let continued := registers.fold reached.value later
    registers.fold start (earlier ++ later) =
      ⟨continued.value, reached.steps ++ continued.steps, continued.fault⟩ := by
  induction start, earlier using Registers.fold.induct registers with
  | case1 value => rfl
  | case2 value word => contradiction
  | case3 value operator operand rest fault refused =>
      simp only [Registers.fold, refused] at through
      contradiction
  | case4 value operator operand rest step taken fault failed =>
      simp only [Registers.fold, taken, failed] at through
      contradiction
  | case5 value operator operand rest step taken next result inductionHypothesis =>
      simp only [Registers.fold, taken, result] at through
      simp only [List.cons_append, Registers.fold, taken, result, inductionHypothesis through]

/-- Two words that make no step are stuck, whatever follows them. -/
theorem stuck_of_step_eq_error {value : Fraction} {operator operand : Text} {fault : Fault}
    (refused : registers.step value operator operand = .error fault) (rest : List Text) :
    Stuck registers (operator :: operand :: rest) fault := by
  rcases exists_operand_or_refused operand with ⟨operand, rfl⟩ | ⟨actual, refusal⟩
  · by_cases symbol : ∃ known : Operator, operator = [known.symbol]
    · obtain ⟨known, rfl⟩ := symbol
      simp only [Registers.step, operand_text_eq, Operator.ofWord_symbol, reduceCtorEq] at refused
    · have noSymbol := not_exists.mp symbol
      simp only [Registers.step, operand_text_eq, Operator.ofWord_of_ne noSymbol,
        Except.error.injEq] at refused
      exact refused ▸ .operator noSymbol
  · simp only [Registers.step, operand_of_refused registers refusal, Except.error.injEq] at refused
    exact refused ▸ .operand refusal

theorem value_eq_zero_of_num_eq_zero {operand : Operand}
    (zero : (operand.fraction registers).num = 0) : operand.value registers = 0 := by
  cases operand with
  | literal literal defined => exact Rat.num_eq_zero.mp zero
  | register register =>
      rw [Operand.fraction] at zero
      rw [Operand.value, Fraction.toRat, zero, Int.cast_zero, zero_div]

/-- A fold ends early only where it is stuck. -/
theorem exists_stuck_of_fault_fold {start : Fraction} {words : List Text} {fault : Fault}
    (ended : (registers.fold start words).fault = some fault) :
    ∃ before rest, words = before ++ rest ∧ Stuck registers rest fault := by
  induction start, words using Registers.fold.induct registers with
  | case1 value => contradiction
  | case2 value word =>
      cases ended
      exact ⟨[], [word], rfl, .lone word⟩
  | case3 value operator operand rest failure refused =>
      simp only [Registers.fold, refused, Option.some.injEq] at ended
      exact ⟨[], _, rfl, ended ▸ stuck_of_step_eq_error refused rest⟩
  | case4 value operator operand rest step taken failure failed =>
      obtain ⟨pair, words, rfl⟩ := (registers.step_eq_ok_iff value _ _ _).mp taken
      obtain ⟨division, zero, rfl⟩ :=
        (registers.result_step_eq_error_iff value pair failure).mp failed
      simp only [Registers.fold, taken, failed, Option.some.injEq] at ended
      rw [Pair.words, division, List.cons.injEq, List.cons.injEq] at words
      obtain ⟨rfl, rfl, -⟩ := words
      exact ⟨[], _, rfl, ended ▸ .zeroDivisor (value_eq_zero_of_num_eq_zero zero)⟩
  | case5 value operator operand rest step taken next result inductionHypothesis =>
      simp only [Registers.fold, taken, result] at ended
      obtain ⟨before, tail, rfl, stuck⟩ := inductionHypothesis ended
      exact ⟨operator :: operand :: before, tail, rfl, stuck⟩

end Registers

end FractionCalculator
