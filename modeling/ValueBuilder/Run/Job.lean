import ValueBuilder.CommandLine.Basic
import ValueBuilder.Generation.Basic
import ValueBuilder.Unicode.Blank

/-!
# Jobs

What the command that generates files has to do, once its options are known to go together.
-/

namespace ValueBuilder

open CommandLine

/-- How much a job tells about its progress. -/
inductive Verbosity
  /-- Nothing. -/
  | quiet
  | normal
  | verbose
  deriving Repr, DecidableEq

/-- Why options do not go together or cannot be meant. -/
inductive OptionsError
  | verboseAndQuiet
  | emptyTypeName
  deriving Repr, DecidableEq

/-- The text of the error. -/
def OptionsError.message : OptionsError → String
  | verboseAndQuiet => "--verbose and --quiet cannot be used together"
  | emptyTypeName => "--only contains an empty type name"

/-- A job of generating files. -/
structure Job where
  input : String
  output : String
  level : SourceLevel
  verbosity : Verbosity
  request : Request
  deriving Repr, DecidableEq

/-- The verbosity of two switches that exclude each other. -/
def Verbosity.ofSwitches (verbose quiet : Bool) : Except OptionsError Verbosity :=
  match verbose, quiet with
  | true, true => .error .verboseAndQuiet
  | true, false => .ok .verbose
  | false, true => .ok .quiet
  | false, false => .ok .normal

/-- A requested type name, without the blanks around it. -/
def requestedName (name : String) : Except OptionsError String :=
  let trimmed := Unicode.trimBlanks name
  if trimmed.isEmpty then .error .emptyTypeName else .ok trimmed

/-- The request of a list of type names: each once, in ascending order. -/
def requestOf : Option (List String) → Except OptionsError Request
  | none => .ok none
  | some names => do return some (sorted (← names.mapM requestedName))

/-- The job of given options. -/
def Job.ofOptions (options : GenerateOptions) : Except OptionsError Job := do
  let verbosity ← Verbosity.ofSwitches options.verbose options.quiet
  let request ← requestOf options.only
  return ⟨options.input, options.output, options.sourceLevel, verbosity, request⟩

end ValueBuilder
