import FractionCalculator.Text.Basic

/-!
# Instructions

A line either stores the accumulator or is an expression to evaluate. Its first
six characters decide: a line that starts with `STORE` in capitals and a space
is a store line, whatever follows, and every other line is an expression.
-/

namespace FractionCalculator

/-- What a line asks for. -/
inductive Instruction where
  /-- Copy the accumulator into a register. -/
  | store
  /-- Evaluate the line as an expression. -/
  | evaluate
deriving DecidableEq, Repr

namespace Instruction

/-- The beginning of every store line. -/
def storeMark : Text :=
  "STORE ".toList

/-- What a line asks for. -/
def ofLine (line : Text) : Instruction :=
  if storeMark.isPrefixOf line then store else evaluate

/-- The name of an instruction in the log. -/
def name : Instruction → Text
  | store => "Store".toList
  | evaluate => "Evaluate".toList

/-- A line is a store line exactly when the mark begins it. -/
theorem ofLine_eq_store_iff (line : Text) :
    ofLine line = store ↔ storeMark <+: line := by
  rw [← List.isPrefixOf_iff_prefix, ofLine]
  split <;> simp_all

end Instruction

end FractionCalculator
