import FractionCalculator.Proofs.Expression.Congruence
import FractionCalculator.Proofs.Session.Congruence

/-!
# Registers stand for what they hold

In operand position a register letter can be replaced by the written form of
what the register holds. The line keeps its word boundaries and its end, and
every operand keeps its fraction or its fault, so the answer is the same, on
failing lines as well. This needs registers in lowest terms, since only these
are read back as they were written.
-/

namespace FractionCalculator

/-- A line ends in an operator if its last word does and no space comes after
it. -/
theorem Text.endsInOperator_unwords_append (earlier : List Text) {last : Text}
    (nonempty : last ≠ []) (spaces : Nat) :
    Text.endsInOperator (unwords (earlier ++ [last]) ++ List.replicate spaces ' ') =
      (decide (spaces = 0) && Text.endsInOperator last) := by
  cases spaces with
  | zero =>
      obtain ⟨before, written⟩ := isSuffix_unwords_concat earlier last
      rw [List.replicate_zero, List.append_nil, ← written, endsInOperator_append before nonempty]
      rfl
  | succ spaces =>
      rw [List.replicate_succ', ← List.append_assoc,
        endsInOperator_append _ (List.cons_ne_nil ' ' [])]
      rfl

namespace Registers

variable (registers : Registers)

/-! ## Spelling registers out -/

/-- A register letter becomes the written form of what the register holds, and
every other word stays as it is. -/
def spellOut (word : Text) : Text :=
  match word with
  | [char] =>
    match Register.ofChar? char with
    | some register => (registers.get register).toText
    | none => word
  | _ => word

/-- Words with chosen ones of those in operand position spelled out. -/
def spellOutWords (chosen : Nat → Bool) (words : List Text) : List Text :=
  words.mapIdx fun position word =>
    if position % 2 = 0 ∧ chosen position then registers.spellOut word else word

/-- A line with chosen words in operand position spelled out. -/
def spellOutLine (chosen : Nat → Bool) (line : Text) : Text :=
  Text.unwords (registers.spellOutWords chosen (Text.words line)) ++
    line.drop (Text.unwords (Text.words line)).length

/-! ## Words that take each other's place -/

/-- The same word, or two operands with the same fraction. -/
inductive Interchangeable : Text → Text → Prop where
  | refl (word : Text) : Interchangeable word word
  | operands {first second : Operand}
      (same : first.fraction registers = second.fraction registers) :
      Interchangeable first.text second.text

variable {registers}

section

variable {first second : Text} (interchangeable : registers.Interchangeable first second)
include interchangeable

theorem Interchangeable.operand_eq : registers.operand first = registers.operand second := by
  cases interchangeable with
  | refl => rfl
  | operands same => rw [operand_text_eq, operand_text_eq, same]

theorem Interchangeable.space_notMem (spaceless : ' ' ∉ first) : ' ' ∉ second := by
  cases interchangeable with
  | refl => exact spaceless
  | @operands _ operand => exact operand.space_notMem_text

theorem Interchangeable.ne_nil (nonempty : first ≠ []) : second ≠ [] := by
  cases interchangeable with
  | refl => exact nonempty
  | @operands _ operand => exact operand.text_ne_nil

theorem Interchangeable.endsInOperator_eq :
    Text.endsInOperator first = Text.endsInOperator second := by
  have operandEnds (operand : Operand) : Text.endsInOperator operand.text = false := by
    rw [Bool.eq_false_iff, Ne, Text.endsInOperator_iff]
    rintro ⟨operator, last⟩
    obtain ⟨char, ends, -, noSymbol⟩ := operand.exists_getLast?_text
    rw [ends] at last
    exact noSymbol operator (Option.some.inj last)
  cases interchangeable with
  | refl => rfl
  | operands => rw [operandEnds, operandEnds]

end

theorem IsReduced.interchangeable_spellOut (reduced : registers.IsReduced) (word : Text) :
    registers.Interchangeable word (registers.spellOut word) := by
  unfold spellOut
  split
  · rename_i char
    split
    · rename_i register found
      obtain rfl := (Register.ofChar?_eq_some_iff char register).mp found
      obtain ⟨operand, text, fraction⟩ := (reduced register).exists_operand
      have same : (Operand.register register).fraction registers = operand.fraction registers :=
        (fraction registers).symm
      rw [← text]
      exact .operands same
    · exact .refl _
  · exact .refl _

/-! ## Spelled out lines -/

/-- A spelled out line has as many spaces at its end as before. -/
theorem exists_spellOutLine_eq (registers : Registers) (chosen : Nat → Bool) (line : Text) :
    ∃ spaces, line = Text.unwords (Text.words line) ++ List.replicate spaces ' ' ∧
      registers.spellOutLine chosen line =
        Text.unwords (registers.spellOutWords chosen (Text.words line)) ++
          List.replicate spaces ' ' := by
  obtain ⟨spaces, written⟩ := Text.exists_unwords_words_append line
  refine ⟨spaces, written, ?_⟩
  have dropped : line.drop (Text.unwords (Text.words line)).length = List.replicate spaces ' ' :=
    (congrArg (List.drop _) written).trans List.drop_left
  rw [spellOutLine, dropped]

variable (reduced : registers.IsReduced) (chosen : Nat → Bool)
include reduced

theorem IsReduced.interchangeable_at (position : Nat) (word : Text) :
    registers.Interchangeable word
      (if position % 2 = 0 ∧ chosen position then registers.spellOut word else word) := by
  split
  · exact reduced.interchangeable_spellOut word
  · exact .refl word

/-- Spelling registers out keeps the shape that the words of a line have. -/
theorem IsReduced.isWordList_spellOutWords {words : List Text} (shape : Text.IsWordList words) :
    Text.IsWordList (registers.spellOutWords chosen words) := by
  constructor
  · intro word member
    obtain ⟨position, bound, rfl⟩ := List.mem_mapIdx.mp member
    exact (reduced.interchangeable_at chosen position _).space_notMem
      (shape.1 _ (List.getElem_mem bound))
  · intro empty
    rw [spellOutWords, List.getLast?_mapIdx, Option.map_eq_some_iff] at empty
    obtain ⟨last, ends, empty⟩ := empty
    refine (reduced.interchangeable_at chosen _ last).ne_nil ?_ empty
    rintro rfl
    exact shape.2 ends

/-- Word boundaries stay. -/
theorem IsReduced.words_spellOutLine (line : Text) :
    Text.words (registers.spellOutLine chosen line) =
      registers.spellOutWords chosen (Text.words line) := by
  obtain ⟨spaces, -, written⟩ := registers.exists_spellOutLine_eq chosen line
  rw [written]
  exact Text.words_unwords_append
    (reduced.isWordList_spellOutWords chosen (Text.isWordList_words line)) spaces

/-- A line ends in an operator as before, since its last word is the same or both
are operands. -/
theorem IsReduced.endsInOperator_spellOutLine (line : Text) :
    Text.endsInOperator (registers.spellOutLine chosen line) = Text.endsInOperator line := by
  obtain ⟨spaces, original, written⟩ := registers.exists_spellOutLine_eq chosen line
  have nonempty := (Text.isWordList_words line).2
  rw [written]
  conv_rhs => rw [original]
  rcases List.eq_nil_or_concat (Text.words line) with none | ⟨earlier, last, split⟩
  · rw [none]
    rfl
  · rw [List.concat_eq_append] at split
    rw [split, List.getLast?_concat, Ne, Option.some.injEq] at nonempty
    have same := reduced.interchangeable_at chosen earlier.length last
    rw [split, spellOutWords, List.mapIdx_concat,
      Text.endsInOperator_unwords_append _ nonempty,
      Text.endsInOperator_unwords_append _ (same.ne_nil nonempty), same.endsInOperator_eq]

end Registers

namespace Session

variable {session : Session}

theorem evaluateWords_of_alike {first second : Text} {rest otherRest : List Text}
    (same : session.registers.operand first = session.registers.operand second)
    (alike : Registers.Alike session.registers session.registers rest otherRest)
    (line otherLine : Text) :
    (session.evaluateWords otherLine (second :: otherRest)).result =
        (session.evaluateWords line (first :: rest)).result ∧
      (session.evaluateWords otherLine (second :: otherRest)).session =
        (session.evaluateWords line (first :: rest)).session := by
  simp only [evaluateWords, same]
  cases session.registers.operand second with
  | error fault => exact ⟨rfl, rfl⟩
  | ok value =>
      simp only [Registers.fold_eq_of_alike alike, result_conclude, session_conclude, and_self]

variable (reduced : session.registers.IsReduced)
include reduced

theorem evaluateWords_spellOutWords (chosen : Nat → Bool) (line otherLine : Text)
    (words : List Text) :
    let spelled := session.registers.spellOutWords chosen words
    (session.evaluateWords otherLine spelled).result =
        (session.evaluateWords line words).result ∧
      (session.evaluateWords otherLine spelled).session =
        (session.evaluateWords line words).session := by
  intro spelled
  cases words with
  | nil => exact ⟨rfl, rfl⟩
  | cons first rest =>
      rw [show spelled = _ from List.mapIdx_cons]
      refine evaluateWords_of_alike (reduced.interchangeable_at chosen 0 first).operand_eq
        (Registers.alike_mapIdx ?_ ?_ rest) line otherLine
      · intro position word even
        exact if_neg (by omega)
      · intro position word odd
        exact (reduced.interchangeable_at chosen (position + 1) word).operand_eq

/-- Registers can be spelled out in operand position, in any of the words at
once. The line has the same words otherwise, the same result up to the fault that
names the whole line, and leaves the same session. -/
theorem evaluate_spellOutLine (chosen : Nat → Bool) (line : Text) :
    let spelled := session.registers.spellOutLine chosen line
    Text.words spelled = session.registers.spellOutWords chosen (Text.words line) ∧
      (session.evaluate spelled).result =
        (session.evaluate line).result.mapError (Fault.onLine spelled) ∧
      (session.evaluate spelled).session = (session.evaluate line).session := by
  intro spelled
  have split := reduced.words_spellOutLine chosen line
  have ends := reduced.endsInOperator_spellOutLine chosen line
  have same := evaluateWords_spellOutWords reduced chosen line spelled (Text.words line)
  simp only [← split] at same
  refine ⟨split, result_evaluate_eq_mapError ends same.1, ?_⟩
  rw [evaluate_eq_ite, evaluate_eq_ite, ends]
  split
  · rfl
  · exact same.2

omit reduced in
/-- Minus seven thirds in the register c, spelled out in one of two places before
a division by the register d, which holds zero. -/
theorem evaluate_spellOutLine_minus_fourteen_thirds :
    let registers := Registers.zero.set ⟨2⟩ ⟨-7, 3⟩
    registers.IsReduced ∧
      registers.spellOutLine (2 ≤ ·) "c + c / d ".toList = "c + -7/3 / 0 ".toList ∧
      (evaluate ⟨registers, 0⟩ "c + c / d ".toList).result = .error .divisionByZero ∧
      (evaluate ⟨registers, 0⟩ "c + -7/3 / 0 ".toList).result = .error .divisionByZero ∧
      (evaluate ⟨registers, 0⟩ "c + -7/3 / 0 ".toList).session =
        ⟨registers, ⟨-14, 3⟩⟩ := by
  intro registers
  have reduced : registers.IsReduced := Registers.isReduced_zero.set ⟨2⟩ (by decide)
  have spelled : registers.spellOutLine (2 ≤ ·) "c + c / d ".toList = "c + -7/3 / 0 ".toList := by
    decide
  have failed : (evaluate ⟨registers, 0⟩ "c + c / d ".toList).result = .error .divisionByZero := rfl
  obtain ⟨-, result, left⟩ :=
    @evaluate_spellOutLine ⟨registers, 0⟩ reduced (2 ≤ ·) "c + c / d ".toList
  rw [spelled, failed] at result
  rw [spelled] at left
  exact ⟨reduced, spelled, failed, result, left.trans (by decide)⟩

end Session

end FractionCalculator
