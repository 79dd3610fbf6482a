import FractionCalculator.Fault
import FractionCalculator.Fraction

/-!
# Registers

The calculator keeps 26 fractions, named by the letters a to z and all zero at
first. A register is written and read by its letter; any other character names
no register. `get_set` says that a write is seen at its own letter and nowhere
else, and `ext_get` that registers are told apart by reading them.
-/

namespace FractionCalculator

/-- A register name: the position of its letter in the alphabet, from zero. -/
structure Register where
  /-- The position of the letter. -/
  index : Fin 26
deriving DecidableEq, Repr

namespace Register

/-- The letter that names a register. -/
def letter (register : Register) : Char :=
  Char.ofNat ('a'.toNat + register.index)

/-- The register that a character names, if it is a letter from a to z. -/
def ofChar? (char : Char) : Option Register :=
  if bounds : 'a'.toNat ≤ char.toNat ∧ char.toNat < 'a'.toNat + 26 then
    some ⟨⟨char.toNat - 'a'.toNat, by omega⟩⟩
  else none

/-- The register that a character names, or the fault of naming none. -/
def ofChar (char : Char) : Except Fault Register :=
  match ofChar? char with
  | some register => .ok register
  | none => .error (.notRegister char)

@[simp]
theorem ofChar?_letter (register : Register) : ofChar? register.letter = some register := by
  rcases register with ⟨index⟩
  revert index
  decide

theorem ofChar?_eq_some_iff (char : Char) (register : Register) :
    ofChar? char = some register ↔ char = register.letter := by
  constructor
  · intro found
    unfold ofChar? at found
    split at found
    · cases found
      rename_i bounds
      have position : 'a'.toNat + (char.toNat - 'a'.toNat) = char.toNat := by omega
      change char = Char.ofNat ('a'.toNat + (char.toNat - 'a'.toNat))
      rw [position, Char.ofNat_toNat]
    · cases found
  · rintro rfl
    exact ofChar?_letter register

end Register

/-- The contents of all 26 registers, in alphabetical order. -/
structure Registers where
  /-- One fraction for each letter. -/
  contents : Vector Fraction 26
deriving DecidableEq, Repr

namespace Registers

/-- Registers that were never written hold zero. -/
def zero : Registers :=
  ⟨Vector.replicate 26 0⟩

/-- The content of one register. -/
def get (registers : Registers) (register : Register) : Fraction :=
  registers.contents[register.index]

/-- The registers after one of them was overwritten. -/
def set (registers : Registers) (register : Register) (value : Fraction) : Registers :=
  ⟨registers.contents.set register.index value⟩

@[simp]
theorem get_zero (register : Register) : zero.get register = 0 := by
  simp [get, zero]

/-- A write is seen at its own register and nowhere else. -/
theorem get_set (registers : Registers) (written read : Register) (value : Fraction) :
    (registers.set written value).get read =
      if written = read then value else registers.get read := by
  rcases written with ⟨written⟩
  rcases read with ⟨read⟩
  simp [get, set, Vector.getElem_set, Fin.ext_iff]

/-- Every register holds a fraction in lowest terms. -/
def IsReduced (registers : Registers) : Prop :=
  ∀ register, (registers.get register).IsReduced

theorem isReduced_zero : zero.IsReduced := by
  intro register
  rw [get_zero]
  exact Fraction.isReduced_ofInt 0

theorem IsReduced.set {registers : Registers} (reduced : registers.IsReduced)
    (written : Register) {value : Fraction} (valueReduced : value.IsReduced) :
    (registers.set written value).IsReduced := by
  intro read
  rw [get_set]
  split
  · exact valueReduced
  · exact reduced read

/-- Registers with equal contents everywhere are equal. -/
theorem ext_get {first second : Registers}
    (agree : ∀ register, first.get register = second.get register) : first = second := by
  rcases first with ⟨first⟩
  rcases second with ⟨second⟩
  congr 1
  apply Vector.ext
  intro position bound
  exact agree ⟨⟨position, bound⟩⟩

end Registers

end FractionCalculator
