import FractionCalculator.Text.Basic

/-!
# Text as bytes

Text leaves and enters the calculator in UTF-8. Bytes that encode no text are
scanned into characters and gaps: a gap is a longest run of bytes that begins an
encoded character and is cut short, or else a single byte that begins none. A
lenient reader puts U+FFFD for every gap, and a strict one refuses them.
-/

namespace FractionCalculator

/-- Bytes in the order in which they are read or written. -/
abbrev Bytes := List UInt8

namespace Utf8

/-- The bytes of a text. -/
def encode (text : Text) : Bytes :=
  text.flatMap String.utf8EncodeChar

/-- A character of which at least one byte is still owed. -/
structure Unfinished where
  /-- The bits of the code point read so far. -/
  code : Nat
  /-- How many bytes are owed. -/
  owed : Nat
  /-- The least value that the next byte may have. -/
  low : Nat
  /-- The greatest value that the next byte may have. -/
  high : Nat
deriving DecidableEq, Repr

/-- Read the first byte of a character. The bounds on the byte after it rule out
overlong encodings, surrogates and code points beyond U+10FFFF. -/
def start (byte : UInt8) : List (Option Char) × Option Unfinished :=
  let value := byte.toNat
  if value < 0x80 then ([some (Char.ofNat value)], none)
  else if value < 0xc2 then ([none], none)
  else if value < 0xe0 then ([], some ⟨value - 0xc0, 1, 0x80, 0xbf⟩)
  else if value < 0xf0 then
    ([], some ⟨value - 0xe0, 2, if value = 0xe0 then 0xa0 else 0x80,
      if value = 0xed then 0x9f else 0xbf⟩)
  else if value < 0xf5 then
    ([], some ⟨value - 0xf0, 3, if value = 0xf0 then 0x90 else 0x80,
      if value = 0xf4 then 0x8f else 0xbf⟩)
  else ([none], none)

/-- Read one byte: what it completes, and what is unfinished after it. A byte
that does not fit leaves a gap and begins anew. -/
def step : Option Unfinished → UInt8 → List (Option Char) × Option Unfinished
  | none, byte => start byte
  | some part, byte =>
    if part.low ≤ byte.toNat ∧ byte.toNat ≤ part.high then
      let code := part.code * 64 + (byte.toNat - 0x80)
      if part.owed = 1 then ([some (Char.ofNat code)], none)
      else ([], some ⟨code, part.owed - 1, 0x80, 0xbf⟩)
    else
      let (found, after) := start byte
      (none :: found, after)

/-- The characters and gaps of bytes that continue an unfinished character. -/
def scanFrom : Option Unfinished → Bytes → List (Option Char)
  | none, [] => []
  | some _, [] => [none]
  | unfinished, byte :: rest =>
    let (found, after) := step unfinished byte
    found ++ scanFrom after rest

/-- The characters of bytes in order, with `none` for each gap. -/
def scan (bytes : Bytes) : List (Option Char) :=
  scanFrom none bytes

/-- The text of bytes with U+FFFD for each gap. -/
def decodeLossy (bytes : Bytes) : Text :=
  (scan bytes).map fun found => found.getD '\ufffd'

/-- The text that bytes encode, if they leave no gap. -/
def decode? (bytes : Bytes) : Option Text :=
  if (scan bytes).all Option.isSome then some (decodeLossy bytes) else none

end Utf8

end FractionCalculator
