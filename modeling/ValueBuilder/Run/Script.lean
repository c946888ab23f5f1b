import ValueBuilder.Console.Table
import ValueBuilder.Declaration.Decoder
import ValueBuilder.Run.Job

/-!
# Scripts

A command is a script: some actions, one declaration file to read, and the actions that follow from
it.  Actions are data; who carries them out decides what a file and the time of day are.
-/

namespace ValueBuilder

open CommandLine

/-- Something that a command does. -/
inductive Action
  /-- Prints a line behind the time of day. -/
  | log (text : String)
  /-- Prints a line. -/
  | print (line : String)
  /-- Prints a line where errors go. -/
  | warn (line : String)
  /-- Writes a file, and the directories on the way to it. -/
  | write (path text : String)
  deriving Repr, DecidableEq

/-- What a command does before and after it reads a declaration file. -/
structure Script where
  opening : List Action
  input : String
  proceed : DeclarationFile → List Action

/-- A warning line. -/
def warningLine (palette : Palette) (label : String) (warning : Warning) : Action :=
  .warn (palette.paint .accent label ++ " " ++ palette.paint .primary warning.message)

/-! ## Listing properties -/

/-- The columns of the table of properties. -/
def propertyColumns : List Column :=
  [⟨"TYPE", .left⟩, ⟨"PROPERTY", .left⟩, ⟨"GETTER", .left⟩, ⟨"DECLARED TYPE", .left⟩,
    ⟨"STRATEGY", .right⟩, ⟨"REQUIRED", .center⟩]

/-- The cells of a property. -/
def propertyRow (target : Java.ClassName) (p : Property) : List String :=
  [target.nestedPath, p.name, p.getter ++ "()", p.type.display, p.strategy.kind.name,
    if p.tracksUnset then "yes" else "no"]

/-- The rows of the table of properties. -/
def propertyRows (blueprints : List Blueprint) : List (List String) :=
  blueprints.flatMap fun b => b.properties.map (propertyRow b.target)

/-- The script that lists the properties of all declared types. -/
def Script.listProperties (palette : Palette) (input : String) : Script where
  opening := []
  input
  proceed file :=
    let plan := file.plan none
    (Table.lines propertyColumns (propertyRows plan.blueprints)).map .print ++
      plan.statistics.warnings.map (warningLine palette "Warning:")

/-! ## Generating files -/

namespace Job

variable (palette : Palette)

/-- Actions that a quiet job leaves out. -/
def unlessQuiet (job : Job) (actions : List Action) : List Action :=
  if job.verbosity = .quiet then [] else actions

/-- A line about the job's progress. -/
def progress (text : String) : Action :=
  .log (palette.paint .primary text)

/-- A line of the statistics. -/
def statisticsLine (label value : String) : Action :=
  .print ("            " ++ palette.paint .label label ++ " " ++ palette.paint .value value)

/-- A line of the statistics that is left out when there is nothing to count. -/
def countLine (label : String) (count : Nat) (value : String) : List Action :=
  if count = 0 then [] else [statisticsLine palette label value]

/-- The statistics. -/
def statisticsLines (s : Statistics) : List Action :=
  [statisticsLine palette "Types generated:" (toString s.generated)] ++
    countLine palette "" s.filtered s!"{s.filtered} filtered by --only" ++
    countLine palette "" s.skipped s!"{s.skipped} skipped" ++
    [statisticsLine palette "Properties:" s!"{s.properties} ({s.required} required)"] ++
    s.strategyCounts.map (fun (kind, count) =>
      statisticsLine palette "" s!"{count} {kind.smallName}") ++
    countLine palette "GWT serializers:" s.serializers (toString s.serializers) ++
    countLine palette "Warnings:" s.warnings.length (toString s.warnings.length)

/-- The warnings that the job shows: those about skipped types, and all when it is verbose. -/
def shownWarnings (job : Job) (s : Statistics) : List Warning :=
  s.warnings.filter fun warning => warning.isSkipped || job.verbosity = .verbose

/-- The label of a warning. -/
def warningLabel (warning : Warning) : String :=
  if warning.isSkipped then "Skipped:" else "Warning:"

/-- The warnings that the job shows, behind an empty line. -/
def warningLines (job : Job) (s : Statistics) : List Action :=
  match job.shownWarnings s with
  | [] => []
  | warnings =>
    .print "" :: warnings.map fun warning => warningLine palette (warningLabel warning) warning

/-- The path below a directory. -/
def pathBelow (directory : String) (steps : List String) : String :=
  let separator := if directory.toList.getLast? = some '/' then "" else "/"
  directory ++ separator ++ "/".intercalate steps

/-- The actions that write a file. -/
def fileActions (job : Job) (file : GeneratedFile) : List Action :=
  let path := pathBelow job.output file.path
  .write path file.code ::
    if job.verbosity = .verbose then [.print ("              " ++ palette.paint .info path)] else []

/-- What the job does with the declarations. -/
def actions (job : Job) (declarations : DeclarationFile) : List Action :=
  let settings : Settings := { level := job.level }
  let generation :=
    (declarations.generate settings job.request).withHeaders settings job.input
  let success := s!"Successfully generated {generation.files.length} Java builder sources"
  job.unlessQuiet
      ([progress palette s!"Generating {job.level} builders..."] ++
        statisticsLines palette generation.statistics ++
        job.warningLines palette generation.statistics ++
        [progress palette s!"Writing to: {job.output}"]) ++
    generation.files.flatMap (job.fileActions palette) ++
    job.unlessQuiet [.print "", .log (palette.paint .success success)]

/-- The script of the job. -/
def script (job : Job) : Script where
  opening := job.unlessQuiet [progress palette s!"Loading declarations from: {job.input}"]
  input := job.input
  proceed := job.actions palette

end Job

/-- The script of a command. -/
def Script.ofCommand (palette : Palette) : Command → Except OptionsError Script
  | .listProperties input => .ok (.listProperties palette input)
  | .generate options => (Job.ofOptions options).map (·.script palette)

end ValueBuilder
