import Std.Time.Zoned
import ValueBuilder.CommandLine.Help
import ValueBuilder.CommandLine.Parser
import ValueBuilder.Run.Outcome

/-!
# The program

Reads the command line and carries out the script of the command on the disk.
-/

open ValueBuilder

/-- A number of two digits. -/
def twoDigits (n : Int) : String :=
  if n < 10 then s!"0{n}" else toString n

/-- The time of day. -/
def timeOfDay : IO String := do
  let now ← Std.Time.PlainTime.now
  return s!"[{twoDigits now.hour.val}:{twoDigits now.minute.val}:{twoDigits now.second.val}]"

/-- The colours of the terminal. -/
def terminalPalette (invocation : CommandLine.Invocation) : IO Palette := do
  let isTerminal ← (← IO.getStdout).isTty
  let wantsColors := isTerminal && (← IO.getEnv "NO_COLOR").isNone
  let terminalColors ← IO.getEnv "COLORFGBG"
  return ⟨invocation.color.resolve wantsColors, invocation.theme.resolve terminalColors⟩

/-- Carries out one action. -/
def perform (palette : Palette) : Action → IO Unit
  | .log text => do IO.println (palette.paint .timestamp (← timeOfDay) ++ " " ++ text)
  | .print line => IO.println line
  | .warn line => IO.eprintln line
  | .write path text => do
    let directory := "/".intercalate (FileTree.directorySteps path)
    unless directory.isEmpty do IO.FS.createDirAll directory
    IO.FS.writeFile path text

/-- Carries out a script. -/
def runScript (palette : Palette) (script : Script) : IO Unit := do
  script.opening.forM (perform palette)
  let bytes ← try IO.FS.readBinFile script.input
    catch _ => throw (.userError (unreadableMessage script.input))
  match DeclarationFile.decode bytes.toList with
  | .error fault => throw (.userError (DeclarationFile.faultMessage fault))
  | .ok declarations => (script.proceed declarations).forM (perform palette)

/-- Carries out a command. -/
def runInvocation (invocation : CommandLine.Invocation) : IO Unit := do
  let palette ← terminalPalette invocation
  match Script.ofCommand palette invocation.command with
  | .error error => throw (.userError error.message)
  | .ok script => runScript palette script

/-- The program.  A command line that cannot be read ends it with 2, any other error with 1. -/
def main (arguments : List String) : IO UInt32 := do
  match CommandLine.parse arguments with
  | .error error =>
    if error.isRequest then
      error.lines.forM (IO.println ·)
      return 0
    else
      error.lines.forM (IO.eprintln ·)
      return 2
  | .ok invocation =>
    try
      runInvocation invocation
      return 0
    catch error =>
      IO.eprintln s!"Error: {error}"
      return 1
