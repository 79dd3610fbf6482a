import FractionCalculator.Text.Basic

/-!
# Command line arguments

Options come first: `-f PATH`, `--file PATH` or `--file=PATH` names a file of
lines, `-i` or `--interactive` asks for a dialogue, `-h` or `--help` for help,
and `-V` or `--version` for the version. Letters of options may share one dash,
and what follows the letter f in such a cluster is its path. The first argument
that is no option is an expression, and so is everything after it; a `--` in
front of it only says that no option follows. An option that is repeated, lacks
its path or has a value it does not take is a mistake. Options are taken from
left to right: reading stops at the first mistake, or at the first option that
asks for help or the version.
-/

namespace FractionCalculator

/-- What the arguments ask for. -/
structure Arguments where
  /-- The path of the file whose lines come first. -/
  file : Option Text
  /-- A dialogue is asked for, whether there are lines or not. -/
  dialogue : Bool
  /-- The lines given as arguments. -/
  expressions : List Text
deriving DecidableEq, Repr

namespace Arguments

/-- Why no line is answered. -/
inductive Stop where
  /-- The arguments contain a mistake. -/
  | mistake
  /-- Help is asked for. -/
  | help
  /-- The version is asked for. -/
  | version
deriving DecidableEq, Repr

/-- The exit status of a program that answers no line. -/
def Stop.status : Stop → Nat
  | mistake => 2
  | help => 0
  | version => 0

/-- The options. -/
inductive Switch where
  /-- Names a file. -/
  | file
  /-- Asks for a dialogue. -/
  | dialogue
  /-- Asks for help. -/
  | help
  /-- Asks for the version. -/
  | version
deriving DecidableEq, Repr

namespace Switch

/-- The option that a letter spells after a single dash. -/
def ofLetter? (letter : Char) : Option Switch :=
  match letter with
  | 'f' => some .file
  | 'i' => some .dialogue
  | 'h' => some .help
  | 'V' => some .version
  | _ => none

/-- The option that a long name spells after two dashes. -/
def ofName? (name : Text) : Option Switch :=
  if name = "file".toList then some .file
  else if name = "interactive".toList then some .dialogue
  else if name = "help".toList then some .help
  else if name = "version".toList then some .version
  else none

end Switch

/-- An option with the value that is attached to it. -/
structure Setting where
  /-- The option. -/
  switch : Switch
  /-- The value in the same argument. -/
  value : Option Text
deriving DecidableEq, Repr

namespace Setting

/-- The options that a cluster of letters spells, each letter being one; the
letter f takes the rest of the cluster, unless it is the last letter. -/
def ofLetters? : Text → Option (List Setting)
  | [] => some []
  | letter :: letters =>
    match Switch.ofLetter? letter, ofLetters? letters with
    | some .file, some [] => some [⟨.file, none⟩]
    | some .file, some _ => some [⟨.file, some letters⟩]
    | some switch, some settings => some (⟨switch, none⟩ :: settings)
    | _, _ => none

/-- The option that a long name spells, with the value after an equals sign. -/
def ofSpelling? (spelling : Text) : Option Setting :=
  let value :=
    match spelling.dropWhile (· ≠ '=') with
    | [] => none
    | _ :: value => some value
  (Switch.ofName? (spelling.takeWhile (· ≠ '='))).map (⟨·, value⟩)

end Setting

/-- What one argument is when options may still come. -/
inductive Kind where
  /-- One or more options. -/
  | settings (settings : List Setting)
  /-- The mark after which no option comes. -/
  | separator
  /-- Anything else. -/
  | plain
deriving DecidableEq, Repr

/-- What an argument is when options may still come. A cluster with a letter that
is no option is plain, and so is a long name that is no option. -/
def kind : Text → Kind
  | ['-', '-'] => .separator
  | '-' :: '-' :: spelling =>
    match Setting.ofSpelling? spelling with
    | some setting => .settings [setting]
    | none => .plain
  | '-' :: letter :: letters =>
    match Setting.ofLetters? (letter :: letters) with
    | some settings => .settings settings
    | none => .plain
  | _ => .plain

/-- The options read so far. -/
structure Options where
  /-- The path of the file, once it is given. -/
  file : Option Text
  /-- A dialogue is asked for. -/
  dialogue : Bool
  /-- The option that names a file still lacks its path. -/
  awaiting : Bool
deriving DecidableEq, Repr

namespace Options

/-- No option was read. -/
def initial : Options :=
  ⟨none, false, false⟩

/-- Take the path of the file, which must not be empty nor given before. -/
def addPath (options : Options) (path : Text) : Except Stop Options :=
  if path = [] ∨ options.file.isSome then .error .mistake
  else .ok { options with file := some path, awaiting := false }

/-- Take one option, which is a mistake where a path must stand. -/
def add (options : Options) (setting : Setting) : Except Stop Options :=
  if options.awaiting then .error .mistake
  else
    match setting.switch, setting.value with
    | .file, some path => options.addPath path
    | .file, none =>
      if options.file.isSome then .error .mistake else .ok { options with awaiting := true }
    | .dialogue, none =>
      if options.dialogue then .error .mistake else .ok { options with dialogue := true }
    | .help, none => .error .help
    | .version, none => .error .version
    | _, some _ => .error .mistake

/-- Take the expressions after the options, none of which may lack its path. -/
def finish (options : Options) (expressions : List Text) : Except Stop Arguments :=
  if options.awaiting then .error .mistake
  else .ok ⟨options.file, options.dialogue, expressions⟩

end Options

/-- Read arguments after some options. -/
def readFrom (options : Options) : List Text → Except Stop Arguments
  | [] => options.finish []
  | argument :: rest =>
    match kind argument with
    | .settings settings =>
      match settings.foldlM Options.add options with
      | .ok options => readFrom options rest
      | .error stop => .error stop
    | .separator => options.finish rest
    | .plain =>
      if options.awaiting then
        match options.addPath argument with
        | .ok options => readFrom options rest
        | .error stop => .error stop
      else options.finish (argument :: rest)

/-- What the arguments ask for, or why no line is answered. -/
def read (arguments : List Text) : Except Stop Arguments :=
  readFrom .initial arguments

end Arguments

end FractionCalculator
