import MetalLowering.Command.Job

/-!
# Command lines

A command line names a command, `convert` or `watch`, then two files, with options anywhere between
them. Each option takes a value: the next argument, or what stands behind `=` in the long form and
directly behind the letter in the short one. After `--` everything is a file. Of a repeated option
the last value counts, except for definitions, which are collected.

A command line that breaks these rules asks for nothing, and neither does one with the null
character in a path that counts.
-/

namespace MetalLowering

/-- What the command line asks for. -/
inductive Command
  /-- Convert once, to the output or to standard output. -/
  | convert (job : Job) (output : Option Path)
  /-- Convert to the output whenever a file changes. -/
  | watch (job : Job) (output : Path)

/-- All paths of a command. -/
def Command.paths : Command → List Path
  | .convert job output => job.vertex :: job.fragment :: job.metadata.toList ++ output.toList
  | .watch job output => job.vertex :: job.fragment :: job.metadata.toList ++ [output]

namespace Arguments

/-- The options of both commands. -/
inductive OptionName
  | metadata
  | define
  | output
  | format
  deriving Repr, DecidableEq

/-- Long and short spelling of each option. -/
def spellings : List (Text × Char × OptionName) := [
  ("--meta", 'm', .metadata),
  ("--define", 'D', .define),
  ("--output", 'o', .output),
  ("--format", 'f', .format)]

/-- The option with a long spelling. -/
def long? (t : Text) : Option OptionName := (spellings.find? (·.1 = t)).map (·.2.2)

/-- The option with a letter. -/
def short? (c : Char) : Option OptionName := (spellings.find? (·.2.1 = c)).map (·.2.2)

/-- Whether an argument is an option. -/
def isOption (argument : Text) : Bool := argument.head? = some '-' && 1 < argument.length

/-- The option that an argument names, with the value if it stands in the same argument. -/
def option? (argument : Text) : Option (OptionName × Option Text) :=
  let (spelled, value) := Text.cutAt "=" argument
  match long? spelled, argument with
  | some name, _ => some (name, value)
  | none, '-' :: c :: rest =>
    if c = '-' then none
    else (short? c).map fun name => (name, if rest = [] then none else some rest)
  | none, _ => none

/-- Files and options of a command. -/
structure Given where
  /-- The arguments that are no options, in order. -/
  files : List Text := []
  /-- The options with their values, in order. -/
  options : List (OptionName × Text) := []

/-- The given arguments with a file before them. -/
def Given.withFile (g : Given) (file : Text) : Given := { g with files := file :: g.files }

/-- The given arguments with an option before them. -/
def Given.withOption (g : Given) (name : OptionName) (value : Text) : Given :=
  { g with options := (name, value) :: g.options }

/-- Sorts the arguments of a command. -/
def sort : List Text → Option Given
  | [] => some {}
  | argument :: rest =>
    if argument = "--".toList then some { files := rest }
    else if isOption argument then
      match option? argument with
      | none => none
      | some (name, some value) => (sort rest).map (·.withOption name value)
      | some (name, none) =>
        match rest with
        | [] => none
        | value :: rest => (sort rest).map (·.withOption name value)
    else (sort rest).map (·.withFile argument)

/-- The last value of an option. -/
def Given.last? (g : Given) (name : OptionName) : Option Text :=
  (g.options.reverse.find? (·.1 = name)).map (·.2)

/-- All values of an option. -/
def Given.all (g : Given) (name : OptionName) : List Text :=
  (g.options.filter (·.1 = name)).map (·.2)

/-- The job that the arguments describe. -/
def Given.job? (g : Given) : Option Job :=
  match g.files with
  | [vertex, fragment] => some {
      vertex := Path.ofText vertex
      fragment := Path.ofText fragment
      metadata := (g.last? .metadata).map Path.ofText
      defines := g.all .define
      format := (g.last? .format).getD "plain".toList }
  | _ => none

/-- The command that a name and its arguments ask for. -/
def command? (name : Text) (arguments : List Text) : Option Command := do
  let given ← sort arguments
  let job ← given.job?
  let output := (given.last? .output).map Path.ofText
  if name = "convert".toList then return .convert job output
  else if name = "watch".toList then output.map (.watch job)
  else none

/-- The command that a command line names, whatever its paths hold. -/
def named? (arguments : List Text) : Option Command :=
  let arguments := if arguments.head? = some "--".toList then arguments.tail else arguments
  match arguments with
  | [] => none
  | name :: rest => command? name rest

/-- The command that a command line asks for. -/
def parse (arguments : List Text) : Option Command :=
  (named? arguments).filter fun command =>
    command.paths.all fun path => !path.text.contains (Char.ofNat 0)

end Arguments

end MetalLowering
