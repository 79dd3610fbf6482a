import FractionCalculator.Dialogue
import FractionCalculator.Text.Utf8.Lemmas

/-!
# The lines of an input

An input falls into lines in exactly one way. Every line ends in its only line
feed, except that the rest after the last line feed is a line too if it is not
empty and the input does not fail. `IsCut` says so without a reader, and
`isCut_iff` that the reader finds this cut.
-/

namespace FractionCalculator.Input

/-- A line with its line feed: there is one, at its end. -/
def IsLine (bytes : Bytes) : Prop :=
  ∃ body, 0x0a ∉ body ∧ bytes = body ++ [0x0a]

/-- The lines into which an input is cut. -/
inductive IsCut : Input → List Bytes → Prop where
  /-- The input ends after a line feed, or is empty. -/
  | complete {lines : List Bytes} (each : ∀ line ∈ lines, IsLine line) :
      IsCut ⟨lines.flatten, false⟩ lines
  /-- The input ends inside a line. -/
  | unterminated {lines : List Bytes} {rest : Bytes} (each : ∀ line ∈ lines, IsLine line)
      (nonempty : rest ≠ []) (noFeed : 0x0a ∉ rest) :
      IsCut ⟨lines.flatten ++ rest, false⟩ (lines ++ [rest])
  /-- The input fails, and what was read after the last line feed is lost. -/
  | failing {lines : List Bytes} {rest : Bytes} (each : ∀ line ∈ lines, IsLine line)
      (noFeed : 0x0a ∉ rest) : IsCut ⟨lines.flatten ++ rest, true⟩ lines

/-! ## Cutting bytes -/

theorem cut_feed (bytes : Bytes) :
    cut (0x0a :: bytes) = ([0x0a] :: (cut bytes).1, (cut bytes).2) :=
  rfl

theorem cut_of_not_mem {bytes : Bytes} (noFeed : 0x0a ∉ bytes) : cut bytes = ([], bytes) := by
  induction bytes with
  | nil => rfl
  | cons byte bytes inductionHypothesis =>
      rw [List.mem_cons, not_or] at noFeed
      simp [cut, inductionHypothesis noFeed.2, Ne.symm noFeed.1]

/-- A line feed ends the bytes before it. -/
theorem cut_body_append {body : Bytes} (noFeed : 0x0a ∉ body) :
    cut (body ++ [0x0a]) = ([body ++ [0x0a]], []) := by
  induction body with
  | nil => rfl
  | cons byte body inductionHypothesis =>
      rw [List.mem_cons, not_or] at noFeed
      simp [cut, inductionHypothesis noFeed.2, Ne.symm noFeed.1]

/-- Lines and a rest are found again in the bytes that they make up. -/
theorem cut_flatten_append {lines : List Bytes} (each : ∀ line ∈ lines, IsLine line)
    {rest : Bytes} (noFeed : 0x0a ∉ rest) : cut (lines.flatten ++ rest) = (lines, rest) := by
  induction lines with
  | nil => exact cut_of_not_mem noFeed
  | cons line lines inductionHypothesis =>
      rw [List.forall_mem_cons] at each
      obtain ⟨⟨body, noFeedInside, rfl⟩, later⟩ := each
      have first := cut_body_append noFeedInside
      have complete : (cut (body ++ [0x0a])).2 = [] := by rw [first]
      rw [List.flatten_cons, List.append_assoc, cut_append complete, inductionHypothesis later,
        first, List.singleton_append]

theorem isLine_and_not_mem_of_cut (bytes : Bytes) :
    (∀ line ∈ (cut bytes).1, IsLine line) ∧ 0x0a ∉ (cut bytes).2 := by
  induction bytes with
  | nil => simp [cut]
  | cons byte bytes inductionHypothesis =>
      rcases found : cut bytes with ⟨lines, rest⟩
      rw [found] at inductionHypothesis
      obtain ⟨each, noFeed⟩ := inductionHypothesis
      by_cases feed : byte = 0x0a
      · subst feed
        rw [cut_feed, found]
        exact ⟨List.forall_mem_cons.mpr ⟨⟨[], by simp, rfl⟩, each⟩, noFeed⟩
      · cases lines with
        | nil =>
            have extended : cut (byte :: bytes) = ([], byte :: rest) := by
              simp [cut, found, feed]
            rw [extended]
            exact ⟨each, by simp [Ne.symm feed, noFeed]⟩
        | cons line lines =>
            have extended : cut (byte :: bytes) = ((byte :: line) :: lines, rest) := by
              simp [cut, found, feed]
            rw [List.forall_mem_cons] at each
            obtain ⟨⟨body, noFeedInside, rfl⟩, later⟩ := each
            rw [extended, List.forall_mem_cons]
            exact ⟨⟨⟨byte :: body, by simp [Ne.symm feed, noFeedInside], rfl⟩, later⟩, noFeed⟩

/-! ## Encoded lines -/

/-- The byte of a line feed encodes only that: all bytes of longer characters are
greater than those of ASCII. -/
theorem eq_feed_of_mem_utf8EncodeChar {char : Char}
    (member : 0x0a ∈ String.utf8EncodeChar char) : char = '\n' := by
  have feed : (0x0a : UInt8).toNat = 10 := rfl
  have large {value : Nat} (atLeast : 128 ≤ value) (bound : value < 256) :
      0x0a ≠ UInt8.ofNat value := by
    intro same
    rw [same, Utf8.toNat_ofNat_of_lt bound] at feed
    omega
  have code : char.val.toNat = char.toNat := rfl
  simp only [String.utf8EncodeChar, code] at member
  split at member
  · have same := List.mem_singleton.mp member
    rw [same, Utf8.toNat_ofNat_of_lt (by omega)] at feed
    exact Char.toNat_inj.mp feed
  · exfalso
    split at member
    · simp only [List.mem_cons, List.not_mem_nil, or_false] at member
      rcases member with first | second
      · exact large (by omega) (by omega) first
      · exact large (by omega) (by omega) second
    · split at member
      · simp only [List.mem_cons, List.not_mem_nil, or_false] at member
        rcases member with first | second | third
        · exact large (by omega) (by omega) first
        · exact large (by omega) (by omega) second
        · exact large (by omega) (by omega) third
      · simp only [List.mem_cons, List.not_mem_nil, or_false] at member
        rcases member with first | second | third | fourth
        · exact large (by omega) (by omega) first
        · exact large (by omega) (by omega) second
        · exact large (by omega) (by omega) third
        · exact large (by omega) (by omega) fourth

theorem isLine_encode_append {text : Text} (noFeed : '\n' ∉ text) :
    IsLine (Utf8.encode text ++ [0x0a]) := by
  refine ⟨Utf8.encode text, fun member => ?_, rfl⟩
  obtain ⟨char, inside, byte⟩ := List.mem_flatMap.mp member
  exact noFeed (eq_feed_of_mem_utf8EncodeChar byte ▸ inside)

/-! ## Cutting an input -/

theorem isCut_lines (input : Input) : input.IsCut input.lines := by
  obtain ⟨each, noFeed⟩ := isLine_and_not_mem_of_cut input.bytes
  have whole := cut_flatten input.bytes
  rcases input with ⟨bytes, fails⟩
  simp only [lines] at each noFeed whole ⊢
  cases fails with
  | true =>
      have failing := IsCut.failing each noFeed
      rw [whole] at failing
      simpa using failing
  | false =>
      by_cases ended : (cut bytes).2 = []
      · have complete := IsCut.complete each
        rw [ended, List.append_nil] at whole
        rw [whole] at complete
        simpa [ended] using complete
      · have unterminated := IsCut.unterminated each ended noFeed
        rw [whole] at unterminated
        simpa [ended] using unterminated

/-- The lines that are read are those of the only cut. -/
theorem isCut_iff (input : Input) (pieces : List Bytes) :
    input.IsCut pieces ↔ pieces = input.lines := by
  constructor
  · intro isCut
    cases isCut with
    | complete each =>
        have noFeed : 0x0a ∉ ([] : Bytes) := List.not_mem_nil
        have found := cut_flatten_append each noFeed
        rw [List.append_nil] at found
        simp [lines, found]
    | unterminated each nonempty noFeed =>
        simp [lines, cut_flatten_append each noFeed, nonempty]
    | failing each noFeed => simp [lines, cut_flatten_append each noFeed]
  · rintro rfl
    exact isCut_lines input

end FractionCalculator.Input
