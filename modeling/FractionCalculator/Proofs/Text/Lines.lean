import FractionCalculator.Text.Basic

/-!
# Which lines a text holds

A text holds lines in more than one spelling: either ending may stand after a
line, the last line may do without one, and empty lines may stand anywhere. The
relation `Writes` builds a text from the lines that it holds, the empty ones left
out. The reader finds each line again that a text begins with, and every text is
built in this way.
-/

namespace FractionCalculator.Text

/-! ## Joining a stem to the first line -/

/-- Some lines with a stem in front of the first; the stem is a line of its own
if there is none. -/
def continueWith (stem : Text) : List Text → List Text
  | [] => [stem]
  | line :: later => (stem ++ line) :: later

theorem continueWith_append (first second : Text) (lines : List Text) :
    continueWith (first ++ second) lines = continueWith first (continueWith second lines) := by
  cases lines <;> simp [continueWith]

/-- A character that neither ends a line nor begins a longer ending is read into
the line that begins after it. -/
theorem lines_cons {char : Char} {rest : Text} (notFeed : char ≠ '\n')
    (notReturn : char = '\r' → rest.head? ≠ some '\n') :
    lines (char :: rest) = continueWith [char] (lines rest) := by
  have apart : ∀ later, char = '\r' → rest = '\n' :: later → False := by
    rintro later isReturn rfl
    exact notReturn isReturn rfl
  rw [lines]
  · cases lines rest <;> rfl
  · exact notFeed
  · exact apart

/-- A stem without a line feed is read into the line that begins after it, unless
its last character and what follows make up a longer ending. -/
theorem lines_append {stem rest : Text} (nonempty : stem ≠ []) (noFeed : '\n' ∉ stem)
    (apart : stem.getLast? = some '\r' → rest.head? ≠ some '\n') :
    lines (stem ++ rest) = continueWith stem (lines rest) := by
  induction stem with
  | nil => exact absurd rfl nonempty
  | cons char tail inductionHypothesis =>
      rw [List.mem_cons, not_or] at noFeed
      obtain ⟨notFeed, noFeedLater⟩ := noFeed
      cases tail with
      | nil => exact lines_cons (Ne.symm notFeed) fun isReturn => apart (by simp [isReturn])
      | cons next tail =>
          have nextNotFeed : next ≠ '\n' := fun feed => noFeedLater (by simp [feed])
          have later := inductionHypothesis (by simp) noFeedLater (by simpa using apart)
          rw [List.cons_append, lines_cons (Ne.symm notFeed) (by simp [nextNotFeed]), later,
            ← continueWith_append]
          rfl

/-! ## Texts that hold lines -/

/-- The two endings of a line. -/
inductive IsEnding : Text → Prop where
  /-- A line feed. -/
  | feed : IsEnding ['\n']
  /-- A carriage return and a line feed. -/
  | returnFeed : IsEnding ['\r', '\n']

/-- The ending of a line that ends in a carriage return is the longer one, since a
single line feed would take that carriage return into the ending. -/
def Ends (ending line : Text) : Prop :=
  IsEnding ending ∧ (line.getLast? = some '\r' → ending = ['\r', '\n'])

/-- The texts that hold the given lines, none of which is empty. -/
inductive Writes : List Text → Text → Prop where
  /-- No line and no text. -/
  | nothing : Writes [] []
  /-- A last line without its ending. -/
  | unended {line : Text} (nonempty : line ≠ []) (noFeed : '\n' ∉ line) : Writes [line] line
  /-- An empty line, which is not counted. -/
  | blank {lines : List Text} {ending text : Text} (ends : IsEnding ending)
      (later : Writes lines text) : Writes lines (ending ++ text)
  /-- A line with its ending. -/
  | ended {lines : List Text} {line ending text : Text} (nonempty : line ≠ [])
      (noFeed : '\n' ∉ line) (ends : Ends ending line) (later : Writes lines text) :
      Writes (line :: lines) (line ++ ending ++ text)

theorem lines_ending {ending : Text} (ends : IsEnding ending) (text : Text) :
    lines (ending ++ text) = [] :: lines text := by
  cases ends <;> rfl

theorem lines_unended {line : Text} (nonempty : line ≠ []) (noFeed : '\n' ∉ line) :
    lines line = [line] := by
  have apart : line.getLast? = some '\r' → ([] : Text).head? ≠ some '\n' := by simp
  have read := lines_append nonempty noFeed apart
  rwa [List.append_nil] at read

theorem lines_ended {line ending : Text} (nonempty : line ≠ []) (noFeed : '\n' ∉ line)
    (ends : Ends ending line) (text : Text) :
    lines (line ++ ending ++ text) = line :: lines text := by
  obtain ⟨isEnding, longer⟩ := ends
  have apart : line.getLast? = some '\r' → (ending ++ text).head? ≠ some '\n' := by
    intro isReturn
    simp [longer isReturn]
  rw [List.append_assoc, lines_append nonempty noFeed apart, lines_ending isEnding]
  simp [continueWith]

/-- A character in front of a text goes into its first line, or into an ending. -/
theorem Writes.exists_cons {lines : List Text} {text : Text} (written : Writes lines text)
    (char : Char) : ∃ lines', Writes lines' (char :: text) := by
  by_cases isFeed : char = '\n'
  · exact ⟨lines, isFeed ▸ .blank .feed written⟩
  have notFeed : '\n' ≠ char := Ne.symm isFeed
  have noFeedAlone : '\n' ∉ [char] := by simpa using notFeed
  cases written with
  | nothing => exact ⟨[[char]], .unended (by simp) noFeedAlone⟩
  | unended nonempty noFeed =>
      exact ⟨_, .unended (by simp) (List.not_mem_cons_of_ne_of_not_mem notFeed noFeed)⟩
  | blank ends later =>
      cases ends with
      | feed =>
          by_cases isReturn : char = '\r'
          · exact ⟨lines, isReturn ▸ .blank .returnFeed later⟩
          · have short : Ends ['\n'] [char] := ⟨.feed, by simp [isReturn]⟩
            exact ⟨_, .ended (List.cons_ne_nil char []) noFeedAlone short later⟩
      | returnFeed =>
          have longer : Ends ['\r', '\n'] [char] := ⟨.returnFeed, fun _ => rfl⟩
          exact ⟨_, .ended (List.cons_ne_nil char []) noFeedAlone longer later⟩
  | @ended _ line _ _ nonempty noFeed ends later =>
      have last : (char :: line).getLast? = line.getLast? := by
        obtain ⟨next, tail, rfl⟩ := List.exists_cons_of_ne_nil nonempty
        exact List.getLast?_cons_cons
      exact ⟨_, .ended (List.cons_ne_nil char line)
        (List.not_mem_cons_of_ne_of_not_mem notFeed noFeed) ⟨ends.1, last ▸ ends.2⟩ later⟩

/-- Every text holds some lines. -/
theorem exists_writes (text : Text) : ∃ lines, Writes lines text := by
  induction text with
  | nil => exact ⟨[], .nothing⟩
  | cons char text inductionHypothesis =>
      obtain ⟨lines, written⟩ := inductionHypothesis
      exact written.exists_cons char

end FractionCalculator.Text
