import FractionCalculator.Text.Utf8

/-!
# Reading back encoded text

The scan of encoded text is its characters, and a scan without gaps comes from
encoded text only. So the strict reader accepts exactly what `encode` writes, and
the lenient reader leaves a replacement character wherever the strict one
refuses.
-/

namespace FractionCalculator.Utf8

theorem encode_cons (char : Char) (text : Text) :
    encode (char :: text) = String.utf8EncodeChar char ++ encode text :=
  rfl

theorem encode_append (first second : Text) :
    encode (first ++ second) = encode first ++ encode second :=
  List.flatMap_append

theorem encode_flatten (texts : List Text) :
    encode texts.flatten = (texts.map encode).flatten := by
  induction texts with
  | nil => rfl
  | cons text rest inductionHypothesis =>
      rw [List.flatten_cons, encode_append, inductionHypothesis, List.map_cons, List.flatten_cons]

/-! ## One byte at a time -/

theorem scanFrom_start (byte : UInt8) (rest : Bytes) :
    scanFrom none (byte :: rest) = (start byte).1 ++ scanFrom (start byte).2 rest :=
  rfl

/-- The last byte owed completes a character. -/
theorem scanFrom_last (code low high : Nat) {byte : UInt8} (rest : Bytes)
    (atLeast : low ≤ byte.toNat) (atMost : byte.toNat ≤ high) :
    scanFrom (some ⟨code, 1, low, high⟩) (byte :: rest) =
      some (Char.ofNat (code * 64 + (byte.toNat - 0x80))) :: scanFrom none rest := by
  simp [scanFrom, step, atLeast, atMost]

/-- An earlier byte owed adds its bits. -/
theorem scanFrom_more (code owed low high : Nat) {byte : UInt8} (rest : Bytes)
    (atLeast : low ≤ byte.toNat) (atMost : byte.toNat ≤ high) :
    scanFrom (some ⟨code, owed + 2, low, high⟩) (byte :: rest) =
      scanFrom (some ⟨code * 64 + (byte.toNat - 0x80), owed + 1, 0x80, 0xbf⟩) rest := by
  simp [scanFrom, step, atLeast, atMost]

theorem scanFrom_one {byte : UInt8} (rest : Bytes) (small : byte.toNat < 0x80) :
    scanFrom none (byte :: rest) = some (Char.ofNat byte.toNat) :: scanFrom none rest := by
  simp [scanFrom_start, start, small]

theorem start_two {byte : UInt8} (atLeast : 0xc2 ≤ byte.toNat) (below : byte.toNat < 0xe0) :
    start byte = ([], some ⟨byte.toNat - 0xc0, 1, 0x80, 0xbf⟩) := by
  rw [start, if_neg (by omega), if_neg (by omega), if_pos below]

theorem start_three {byte : UInt8} (atLeast : 0xe0 ≤ byte.toNat) (below : byte.toNat < 0xf0) :
    start byte = ([], some ⟨byte.toNat - 0xe0, 2, if byte.toNat = 0xe0 then 0xa0 else 0x80,
      if byte.toNat = 0xed then 0x9f else 0xbf⟩) := by
  rw [start, if_neg (by omega), if_neg (by omega), if_neg (by omega), if_pos below]

theorem start_four {byte : UInt8} (atLeast : 0xf0 ≤ byte.toNat) (below : byte.toNat < 0xf5) :
    start byte = ([], some ⟨byte.toNat - 0xf0, 3, if byte.toNat = 0xf0 then 0x90 else 0x80,
      if byte.toNat = 0xf4 then 0x8f else 0xbf⟩) := by
  rw [start, if_neg (by omega), if_neg (by omega), if_neg (by omega), if_neg (by omega),
    if_pos below]

/-! ## From text to bytes and back -/

theorem toNat_ofNat_of_lt {value : Nat} (bound : value < 256) :
    (UInt8.ofNat value).toNat = value := by
  simp [Nat.mod_eq_of_lt bound]

/-- An encoded character is scanned as that character. -/
theorem scanFrom_utf8EncodeChar (char : Char) (rest : Bytes) :
    scanFrom none (String.utf8EncodeChar char ++ rest) = some char :: scanFrom none rest := by
  have valid : char.toNat < 0xd800 ∨ 0xdfff < char.toNat ∧ char.toNat < 0x110000 := char.valid
  have restored : Char.ofNat char.toNat = char := Char.ofNat_toNat char
  have value : char.val.toNat = char.toNat := rfl
  simp only [String.utf8EncodeChar, value]
  generalize char.toNat = code at *
  split
  · have first := toNat_ofNat_of_lt (show code < 256 by omega)
    rw [List.singleton_append, scanFrom_one _ (by omega), first, restored]
  · split
    · have first := toNat_ofNat_of_lt (show code / 64 % 32 + 192 < 256 by omega)
      have second := toNat_ofNat_of_lt (show code % 64 + 128 < 256 by omega)
      rw [List.cons_append, List.singleton_append, scanFrom_start,
        start_two (by omega) (by omega), List.nil_append,
        scanFrom_last _ _ _ _ (by omega) (by omega), first, second]
      rw [show (code / 64 % 32 + 192 - 0xc0) * 64 + (code % 64 + 128 - 0x80) = code by omega,
          restored]
    · split
      · have first := toNat_ofNat_of_lt (show code / 4096 % 16 + 224 < 256 by omega)
        have second := toNat_ofNat_of_lt (show code / 64 % 64 + 128 < 256 by omega)
        have third := toNat_ofNat_of_lt (show code % 64 + 128 < 256 by omega)
        rw [List.cons_append, List.cons_append, List.singleton_append, scanFrom_start,
          start_three (by omega) (by omega), List.nil_append,
          scanFrom_more _ _ _ _ _ (by split <;> omega) (by split <;> omega),
          scanFrom_last _ _ _ _ (by omega) (by omega), first, second, third]
        rw [show ((code / 4096 % 16 + 224 - 0xe0) * 64 + (code / 64 % 64 + 128 - 0x80)) * 64 +
            (code % 64 + 128 - 0x80) = code by omega, restored]
      · have first := toNat_ofNat_of_lt (show code / 262144 % 8 + 240 < 256 by omega)
        have second := toNat_ofNat_of_lt (show code / 4096 % 64 + 128 < 256 by omega)
        have third := toNat_ofNat_of_lt (show code / 64 % 64 + 128 < 256 by omega)
        have fourth := toNat_ofNat_of_lt (show code % 64 + 128 < 256 by omega)
        rw [List.cons_append, List.cons_append, List.cons_append, List.singleton_append,
          scanFrom_start, start_four (by omega) (by omega), List.nil_append,
          scanFrom_more _ _ _ _ _ (by split <;> omega) (by split <;> omega),
          scanFrom_more _ _ _ _ _ (by omega) (by omega),
          scanFrom_last _ _ _ _ (by omega) (by omega), first, second, third, fourth]
        rw [show (((code / 262144 % 8 + 240 - 0xf0) * 64 + (code / 4096 % 64 + 128 - 0x80)) * 64 +
            (code / 64 % 64 + 128 - 0x80)) * 64 + (code % 64 + 128 - 0x80) = code by omega,
          restored]

/-- Encoded text is scanned as its characters. -/
theorem scan_encode (text : Text) : scan (encode text) = text.map some := by
  induction text with
  | nil => rfl
  | cons char text inductionHypothesis =>
    rw [encode_cons, scan, scanFrom_utf8EncodeChar]
    exact congrArg (some char :: ·) inductionHypothesis

/-! ## From bytes to text -/

/-- A scan without gaps has read the byte that was owed, within its bounds. -/
theorem exists_of_scanFrom_isSome {part : Unfinished} {bytes : Bytes}
    (whole : (scanFrom (some part) bytes).all Option.isSome = true) :
    ∃ byte rest, bytes = byte :: rest ∧ part.low ≤ byte.toNat ∧ byte.toNat ≤ part.high := by
  cases bytes with
  | nil => simp [scanFrom] at whole
  | cons byte rest =>
    by_cases bounds : part.low ≤ byte.toNat ∧ byte.toNat ≤ part.high
    · exact ⟨byte, rest, rfl, bounds⟩
    · simp [scanFrom, step, bounds] at whole

theorem ofNat_eq (byte : UInt8) {value : Nat} (same : value = byte.toNat) :
    UInt8.ofNat value = byte := by
  rw [same, UInt8.ofNat_toNat]

theorem toNat_val_ofNat {code : Nat}
    (valid : code < 0xd800 ∨ 0xdfff < code ∧ code < 0x110000) :
    (Char.ofNat code).val.toNat = code := by
  have valid : code.isValidChar := valid
  rw [Char.ofNat, dif_pos valid]
  rfl

section

variable {first : UInt8} {rest : Bytes}
  (whole : (scanFrom none (first :: rest)).all Option.isSome = true)
include whole

theorem exists_encode_two (atLeast : 0xc2 ≤ first.toNat) (below : first.toNat < 0xe0) :
    ∃ char later, first :: rest = String.utf8EncodeChar char ++ later := by
  rw [scanFrom_start, start_two atLeast below] at whole
  rcases exists_of_scanFrom_isSome whole with ⟨second, later, rfl, low, high⟩
  simp only at low high
  refine ⟨Char.ofNat ((first.toNat - 0xc0) * 64 + (second.toNat - 0x80)), later, ?_⟩
  rw [String.utf8EncodeChar, toNat_val_ofNat (by omega), if_neg (by omega), if_pos (by omega),
    ofNat_eq first (by omega), ofNat_eq second (by omega)]
  rfl

theorem exists_encode_three (atLeast : 0xe0 ≤ first.toNat) (below : first.toNat < 0xf0) :
    ∃ char later, first :: rest = String.utf8EncodeChar char ++ later := by
  rw [scanFrom_start, start_three atLeast below] at whole
  rcases exists_of_scanFrom_isSome whole with ⟨second, later, rfl, above, under⟩
  rw [List.nil_append, scanFrom_more _ _ _ _ _ above under] at whole
  rcases exists_of_scanFrom_isSome whole with ⟨third, later, rfl, least, most⟩
  simp only at above under least most
  have low : 0x80 ≤ second.toNat ∧ (first.toNat = 0xe0 → 0xa0 ≤ second.toNat) := by
    split at above <;> omega
  have high : second.toNat ≤ 0xbf ∧ (first.toNat = 0xed → second.toNat ≤ 0x9f) := by
    split at under <;> omega
  refine ⟨Char.ofNat (((first.toNat - 0xe0) * 64 + (second.toNat - 0x80)) * 64 +
    (third.toNat - 0x80)), later, ?_⟩
  rw [String.utf8EncodeChar, toNat_val_ofNat (by omega), if_neg (by omega), if_neg (by omega),
    if_pos (by omega), ofNat_eq first (by omega), ofNat_eq second (by omega),
    ofNat_eq third (by omega)]
  rfl

theorem exists_encode_four (atLeast : 0xf0 ≤ first.toNat) (below : first.toNat < 0xf5) :
    ∃ char later, first :: rest = String.utf8EncodeChar char ++ later := by
  rw [scanFrom_start, start_four atLeast below] at whole
  rcases exists_of_scanFrom_isSome whole with ⟨second, later, rfl, above, under⟩
  rw [List.nil_append, scanFrom_more _ _ _ _ _ above under] at whole
  rcases exists_of_scanFrom_isSome whole with ⟨third, later, rfl, least, most⟩
  rw [scanFrom_more _ _ _ _ _ least most] at whole
  rcases exists_of_scanFrom_isSome whole with ⟨fourth, later, rfl, leastLast, mostLast⟩
  simp only at above under least most leastLast mostLast
  have low : 0x80 ≤ second.toNat ∧ (first.toNat = 0xf0 → 0x90 ≤ second.toNat) := by
    split at above <;> omega
  have high : second.toNat ≤ 0xbf ∧ (first.toNat = 0xf4 → second.toNat ≤ 0x8f) := by
    split at under <;> omega
  refine ⟨Char.ofNat ((((first.toNat - 0xf0) * 64 + (second.toNat - 0x80)) * 64 +
    (third.toNat - 0x80)) * 64 + (fourth.toNat - 0x80)), later, ?_⟩
  rw [String.utf8EncodeChar, toNat_val_ofNat (by omega), if_neg (by omega), if_neg (by omega),
    if_neg (by omega), ofNat_eq first (by omega), ofNat_eq second (by omega),
    ofNat_eq third (by omega), ofNat_eq fourth (by omega)]
  rfl

/-- A character is encoded by the bytes that its code point is read from. -/
theorem exists_encode_of_scanFrom :
    ∃ char later, first :: rest = String.utf8EncodeChar char ++ later := by
  by_cases one : first.toNat < 0x80
  · refine ⟨Char.ofNat first.toNat, rest, ?_⟩
    rw [String.utf8EncodeChar, toNat_val_ofNat (by omega), if_pos (by omega), ofNat_eq first rfl]
    rfl
  by_cases two : 0xc2 ≤ first.toNat ∧ first.toNat < 0xe0
  · exact exists_encode_two whole two.1 two.2
  by_cases three : 0xe0 ≤ first.toNat ∧ first.toNat < 0xf0
  · exact exists_encode_three whole three.1 three.2
  by_cases four : 0xf0 ≤ first.toNat ∧ first.toNat < 0xf5
  · exact exists_encode_four whole four.1 four.2
  have refused : start first = ([none], none) := by
    rw [start, if_neg (by omega)]
    by_cases tail : first.toNat < 0xc2
    · rw [if_pos tail]
    · rw [if_neg tail, if_neg (by omega), if_neg (by omega), if_neg (by omega)]
  simp [scanFrom_start, refused] at whole

end

/-- A scan without gaps reads encoded text. -/
theorem exists_encode_of_scan {bytes : Bytes} (whole : (scan bytes).all Option.isSome = true) :
    ∃ text, bytes = encode text := by
  induction size : bytes.length using Nat.strongRecOn generalizing bytes with
  | ind bound inductionHypothesis =>
    cases bytes with
    | nil => exact ⟨[], rfl⟩
    | cons first others =>
      obtain ⟨char, rest, spelled⟩ := exists_encode_of_scanFrom whole
      rw [spelled] at size whole ⊢
      rw [scan, scanFrom_utf8EncodeChar, List.all_cons, Bool.and_eq_true] at whole
      have positive : 0 < (String.utf8EncodeChar char).length := by
        rw [String.length_utf8EncodeChar]
        exact char.utf8Size_pos
      have shorter : rest.length < bound := by
        rw [← size, List.length_append]
        omega
      rcases inductionHypothesis _ shorter whole.2 rfl with ⟨text, rfl⟩
      exact ⟨char :: text, rfl⟩

/-- The lenient reader undoes encoding. -/
@[simp]
theorem decodeLossy_encode (text : Text) : decodeLossy (encode text) = text := by
  simp [decodeLossy, scan_encode, Function.comp_def]

/-- The strict reader accepts exactly encoded text. -/
theorem decode?_eq_some_iff (bytes : Bytes) (text : Text) :
    decode? bytes = some text ↔ bytes = encode text := by
  constructor
  · intro decoded
    unfold decode? at decoded
    split at decoded
    · rename_i whole
      rcases exists_encode_of_scan whole with ⟨written, rfl⟩
      cases decoded
      rw [decodeLossy_encode]
    · cases decoded
  · rintro rfl
    simp [decode?, scan_encode]

/-- Bytes that encode no text are read with a replacement in them. -/
theorem mem_decodeLossy_of_decode?_eq_none {bytes : Bytes} (refused : decode? bytes = none) :
    '\ufffd' ∈ decodeLossy bytes := by
  unfold decode? at refused
  split at refused
  · cases refused
  · rename_i gap
    simp only [Bool.not_eq_true, List.all_eq_false] at gap
    rcases gap with ⟨found, member, missing⟩
    cases found with
    | none => exact List.mem_map.mpr ⟨none, member, rfl⟩
    | some char => simp at missing

end FractionCalculator.Utf8
