/-!
# Text

The calculator reads and writes text one character at a time, so text is a list
of Unicode scalar values. Strings appear only where a program meets its
terminal; constants are written as strings and unfolded to their characters.

The single space U+0020 separates the words of a line and nothing else does. A
leading space and a doubled space each leave an empty word behind; the empty
words at the end of a line are dropped. `unwords` joins words again, and
`words_cons_space` and `words_cons_of_ne` are the two equations by which a line
is read.

A line of a text ends at a line feed, and a carriage return directly before that
line feed belongs to the ending. The last line need not end; without an ending
it keeps its carriage return. A text that ends with a line ending has no line
after it.

A blank is a character with the property White_Space: the space, the controls
from tab to carriage return, and the separators beyond ASCII. Trimming removes
blanks from both ends and keeps those inside.
-/

namespace FractionCalculator

/-- A text is the list of its characters. -/
abbrev Text := List Char

namespace Text

/-! ## Words -/

/-- The words of a line, read from its end: a space opens an empty word in front
of the words after it, and any other character joins the word it touches. -/
def words : Text → List Text
  | [] => []
  | char :: rest =>
    if char = ' ' then
      match words rest with
      | [] => []
      | later => [] :: later
    else
      match words rest with
      | [] => [[char]]
      | word :: later => (char :: word) :: later

/-- The line that writes words with one space between neighbours. -/
def unwords : List Text → Text
  | [] => []
  | [word] => word
  | word :: next :: later => word ++ ' ' :: unwords (next :: later)

/-- A space before a line with words puts an empty word in front of them. -/
theorem words_cons_space (rest : Text) :
    words (' ' :: rest) =
      if words rest = [] then [] else [] :: words rest := by
  cases found : words rest <;> simp [words, found]

/-- A character other than the space joins the first word after it. -/
theorem words_cons_of_ne {char : Char} (notSpace : char ≠ ' ') (rest : Text) :
    words (char :: rest) =
      (char :: (words rest).headD []) :: (words rest).tail := by
  cases found : words rest <;> simp [words, notSpace, found]

/-! ## Lines -/

/-- The lines of a text, without their endings. -/
def lines : Text → List Text
  | [] => []
  | '\n' :: rest => [] :: lines rest
  | '\r' :: '\n' :: rest => [] :: lines rest
  | char :: rest =>
    match lines rest with
    | [] => [[char]]
    | line :: later => (char :: line) :: later

/-! ## Blanks -/

/-- The inclusive ranges of the code points of blanks. -/
def blankRanges : List (Nat × Nat) :=
  [(0x9, 0xd), (0x20, 0x20), (0x85, 0x85), (0xa0, 0xa0), (0x1680, 0x1680), (0x2000, 0x200a),
   (0x2028, 0x2029), (0x202f, 0x202f), (0x205f, 0x205f), (0x3000, 0x3000)]

/-- A character is a blank when a range of the table holds it. -/
def isBlank (char : Char) : Bool :=
  blankRanges.any fun range => range.1 ≤ char.toNat && char.toNat ≤ range.2

/-- A text without the blanks at its end. -/
def trimEnd (text : Text) : Text :=
  (text.reverse.dropWhile isBlank).reverse

/-- Trimming the end removes blanks only. -/
theorem exists_trimEnd_append (text : Text) :
    ∃ blanks, text = trimEnd text ++ blanks ∧ ∀ char ∈ blanks, isBlank char = true := by
  refine ⟨(text.reverse.takeWhile isBlank).reverse, ?_, ?_⟩
  · rw [trimEnd, ← List.reverse_append, List.takeWhile_append_dropWhile, List.reverse_reverse]
  · intro char member
    exact List.all_eq_true.mp List.all_takeWhile char (List.mem_reverse.mp member)

/-- A text without the blanks at both ends. -/
def trim (text : Text) : Text :=
  trimEnd (text.dropWhile isBlank)

end Text

end FractionCalculator
