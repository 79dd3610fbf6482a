import FractionCalculator.Operator
import FractionCalculator.Register

/-!
# Tokens

A token is a fraction literal, a register letter, a capital letter (which names
no register but is recognised to explain the mistake) or an operator. `scan?`
takes the longest token off the front of a text. A word is a token when the scan
leaves nothing of it, so `1/`, `-a` and `1+2` are none.
-/

namespace FractionCalculator

/-- The smallest units of a line. -/
inductive Token where
  /-- Digits with an optional sign, and optionally a slash and more digits. -/
  | literal (text : Text)
  /-- A lower case letter. -/
  | register (register : Register)
  /-- An upper case letter. -/
  | capital (letter : Char)
  /-- An operator. -/
  | operator (operator : Operator)
deriving DecidableEq, Repr

namespace Token

/-- The digits at the front of a text and the rest after them. -/
def digits (text : Text) : Text × Text :=
  (text.takeWhile Char.isDigit, text.dropWhile Char.isDigit)

theorem digits_append (text : Text) : (digits text).1 ++ (digits text).2 = text :=
  List.takeWhile_append_dropWhile

/-- The longest unsigned literal at the front of a text and the rest after it: a
slash belongs to it only if a digit follows. -/
def scanUnsigned? (text : Text) : Option (Text × Text) :=
  match digits text with
  | ([], _) => none
  | (above, '/' :: rest) =>
    match digits rest with
    | ([], _) => some (above, '/' :: rest)
    | (below, remaining) => some (above ++ '/' :: below, remaining)
  | (above, rest) => some (above, rest)

/-- The longest literal at the front of a text and the rest after it. -/
def scanLiteral? : Text → Option (Text × Text)
  | '-' :: unsigned =>
    (scanUnsigned? unsigned).map fun (spelling, rest) => ('-' :: spelling, rest)
  | unsigned => scanUnsigned? unsigned

/-- The token that a single character other than a digit is. -/
def ofChar? (char : Char) : Option Token :=
  match Register.ofChar? char, Operator.ofChar? char with
  | some name, _ => some (.register name)
  | none, some symbol => some (.operator symbol)
  | none, none => if char.isUpper then some (.capital char) else none

/-- The longest token at the front of a text and the rest after it. -/
def scan? (text : Text) : Option (Token × Text) :=
  match scanLiteral? text with
  | some (spelling, rest) => some (.literal spelling, rest)
  | none =>
    match text with
    | [] => none
    | char :: rest => (ofChar? char).map fun token => (token, rest)

/-- The token that a whole word is. -/
def ofWord? (word : Text) : Option Token :=
  match scan? word with
  | some (token, []) => some token
  | _ => none

/-- A word is a token exactly when the longest token at its front is all of it. -/
theorem ofWord?_eq_some_iff (word : Text) (token : Token) :
    ofWord? word = some token ↔ scan? word = some (token, []) := by
  unfold ofWord?
  split
  · rename_i found
    simp [found]
  · rename_i refused
    simp only [reduceCtorEq, false_iff]
    exact refused token

end Token

end FractionCalculator
