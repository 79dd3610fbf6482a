import FractionCalculator.CommandLine.Program
import FractionCalculator.Proofs.Text.Lines
import FractionCalculator.Text.Utf8.Lemmas

/-!
# The lines of a file

The lines of a file are as good as lines given as arguments: a program that is
given a file answers as one that is given the lines of the file in front of its
other lines. The lines of a file are just those that its text was built from, in
whatever spelling.
-/

namespace FractionCalculator

namespace Program

theorem fileLines_of_writes {lines : List Text} {text : Text} (written : Text.Writes lines text) :
    fileLines text = lines := by
  induction written with
  | nothing => rfl
  | unended nonempty noFeed =>
      simp [fileLines, Text.lines_unended nonempty noFeed, nonempty]
  | blank ends later inductionHypothesis =>
      rw [← inductionHypothesis, fileLines, Text.lines_ending ends]
      rfl
  | ended nonempty noFeed ends later inductionHypothesis =>
      rw [← inductionHypothesis, fileLines, Text.lines_ended nonempty noFeed ends]
      simp [fileLines, nonempty]

/-- A text is built from just the lines that are read in it. -/
theorem fileLines_eq_iff (text : Text) (lines : List Text) :
    fileLines text = lines ↔ Text.Writes lines text := by
  refine ⟨?_, fileLines_of_writes⟩
  rintro rfl
  obtain ⟨lines, written⟩ := Text.exists_writes text
  rwa [fileLines_of_writes written]

end Program

namespace Arguments

/-! ## Arguments -/

/-- A spelling of what is asked for. -/
def spell (arguments : Arguments) : List Text :=
  (arguments.file.map ("--file=".toList ++ ·)).toList ++
    (if arguments.dialogue then ["--interactive".toList] else []) ++
      "--".toList :: arguments.expressions

theorem readFrom_path (options : Options) (ready : options.awaiting = false)
    (unnamed : options.file = none) {path : Text} (nonempty : path ≠ []) (rest : List Text) :
    readFrom options (("--file=".toList ++ path) :: rest) =
      readFrom { options with file := some path } rest := by
  have isPath : kind ("--file=".toList ++ path) = .settings [⟨.file, some path⟩] := rfl
  rw [readFrom, isPath]
  simp [Options.add, Options.addPath, ready, unnamed, nonempty]

/-- Any file, any expressions and a dialogue or none can be asked for. -/
theorem read_spell {arguments : Arguments} (named : arguments.file ≠ some []) :
    read arguments.spell = .ok arguments := by
  obtain ⟨file, dialogue, expressions⟩ := arguments
  cases file with
  | none => cases dialogue <;> rfl
  | some path =>
      have nonempty : path ≠ [] := by simpa using named
      have step := readFrom_path .initial rfl rfl nonempty
      cases dialogue <;> exact step _

end Arguments

namespace Program

/-! ## The program -/

theorem run_of_read_plain {arguments : List Text} {dialogue : Bool} {expressions : List Text}
    (asked : Arguments.read arguments = .ok ⟨none, dialogue, expressions⟩)
    (files : Text → Option Bytes) (stdin : Bytes) :
    run files stdin arguments = carryOut ⟨expressions, dialogue || expressions.isEmpty⟩ stdin := by
  rw [run, asked]
  rfl

/-- With a file, the lines that its text holds come in front of the expressions. -/
theorem run_of_read_file {arguments : List Text} {path : Text} {dialogue : Bool}
    {expressions : List Text}
    (asked : Arguments.read arguments = .ok ⟨some path, dialogue, expressions⟩)
    {files : Text → Option Bytes} {lines : List Text} {text : Text}
    (content : files path = some (Utf8.encode text)) (written : Text.Writes lines text)
    (stdin : Bytes) :
    run files stdin arguments =
      carryOut ⟨lines ++ expressions, dialogue || (lines ++ expressions).isEmpty⟩ stdin := by
  have decoded : (files path).bind Utf8.decode? = some text := by
    rw [content, Option.bind_some, Utf8.decode?_eq_some_iff]
  simp [run, asked, answer, decoded, plan, fileLines_of_writes written]

/-- A program with a file ends as one without a file that is given the lines of the
file in front of its expressions. It lists these lines from a fresh session, holds a
dialogue in the session that is left if it is asked to or there is no line, and ends in
success whatever the lines answer. -/
theorem run_file_eq_run_lines {lines expressions : List Text} {text : Text}
    (written : Text.Writes lines text) {files : Text → Option Bytes} {path : Text}
    (content : files path = some (Utf8.encode text)) {dialogue : Bool} {filed plain : List Text}
    (askedFiled : Arguments.read filed = .ok ⟨some path, dialogue, expressions⟩)
    (askedPlain : Arguments.read plain = .ok ⟨none, dialogue, lines ++ expressions⟩)
    (stdin : Bytes) :
    let listed := lines ++ expressions
    let listing := Listing.run .unlimited .fresh listed
    let conversation := Dialogue.run .unlimited listing.session ⟨stdin, false⟩
    let completion := run files stdin filed
    completion = run files stdin plain ∧ completion.status = 0 ∧
      completion.stdout =
        listing.output ++ if dialogue = true ∨ listed = [] then conversation.output else [] := by
  intro listed listing conversation completion
  have filed_eq : completion = carryOut ⟨listed, dialogue || listed.isEmpty⟩ stdin :=
    run_of_read_file askedFiled content written stdin
  have plain_eq : run files stdin plain = carryOut ⟨listed, dialogue || listed.isEmpty⟩ stdin :=
    run_of_read_plain askedPlain files stdin
  refine ⟨filed_eq.trans plain_eq.symm, ?_, ?_⟩
  · rw [filed_eq, status_carryOut]
  · rw [filed_eq, carryOut_eq]
    simp only [Bool.or_eq_true, List.isEmpty_iff]
    rfl

/-- Both endings, empty lines, a line that ends in a carriage return and a last line
without an ending; then expressions that look like options. -/
theorem run_file_eq_run_lines_mixed :
    let text := "\n1/3\r\n\r\n+ 1\r\r\nSTORE a\n\na\r".toList
    let lines := ["1/3".toList, "+ 1\r".toList, "STORE a".toList, "a\r".toList]
    let expressions := ["".toList, "-i".toList, "--".toList]
    let path := "in.txt".toList
    let files := fun name => if name = path then some (Utf8.encode text) else none
    let filed := ["-if".toList, path] ++ expressions
    let plain := Arguments.spell ⟨none, true, lines ++ expressions⟩
    Text.Writes lines text ∧ files path = some (Utf8.encode text) ∧
      Arguments.read filed = .ok ⟨some path, true, expressions⟩ ∧
      Arguments.read plain = .ok ⟨none, true, lines ++ expressions⟩ ∧
      run files (Utf8.encode "a".toList) filed = run files (Utf8.encode "a".toList) plain ∧
      (run files (Utf8.encode "a".toList) filed).status = 0 := by
  intro text lines expressions path files filed plain
  have written : Text.Writes lines text := (fileLines_eq_iff text lines).mp (by decide)
  have content : files path = some (Utf8.encode text) := if_pos rfl
  have askedFiled : Arguments.read filed = .ok ⟨some path, true, expressions⟩ := rfl
  have askedPlain : Arguments.read plain = .ok ⟨none, true, lines ++ expressions⟩ :=
    Arguments.read_spell (by simp)
  obtain ⟨same, success, -⟩ :=
    run_file_eq_run_lines written content askedFiled askedPlain (Utf8.encode "a".toList)
  exact ⟨written, content, askedFiled, askedPlain, same, success⟩

end Program

end FractionCalculator
