import ValueBuilder.Run.FileTree
import ValueBuilder.Run.Script

/-!
# Outcomes

What a command prints and which files it leaves, when it is carried out in a directory in memory at
a given time of day.  The first action that fails is the last one.
-/

namespace ValueBuilder

open CommandLine

/-- Why a command stopped early. -/
inductive Failure
  | options (error : OptionsError)
  | unreadable (path : String)
  | declarations (fault : Json.Fault)
  | file (error : FileError)
  deriving Repr, DecidableEq

/-- The text of the error of a file that cannot be opened. -/
def unreadableMessage (path : String) : String :=
  "failed to open " ++ path

/-- The text of the failure. -/
def Failure.message : Failure → String
  | options error => error.message
  | unreadable path => unreadableMessage path
  | declarations fault => DeclarationFile.faultMessage fault
  | file error => error.message

/-- What a command has done so far. -/
structure Outcome where
  stdout : String := ""
  stderr : String := ""
  files : FileTree
  failure : Option Failure := none

namespace Outcome

/-- The outcome with a line more on the output. -/
def printLine (outcome : Outcome) (line : String) : Outcome :=
  { outcome with stdout := outcome.stdout ++ line ++ "\n" }

/-- Carries out one action. -/
def perform (stamp : String) (outcome : Outcome) : Action → Outcome
  | .log text => outcome.printLine (stamp ++ " " ++ text)
  | .print line => outcome.printLine line
  | .warn line => { outcome with stderr := outcome.stderr ++ line ++ "\n" }
  | .write path text =>
    match outcome.files.write path text.toUTF8.toList with
    | .ok files => { outcome with files }
    | .error error => { outcome with failure := some (.file error) }

/-- Carries out actions until one fails. -/
def performAll (stamp : String) (outcome : Outcome) (actions : List Action) : Outcome :=
  actions.foldl
    (fun outcome action =>
      if outcome.failure.isSome then outcome else outcome.perform stamp action)
    outcome

end Outcome

/-- Carries out a script in a directory. -/
def Script.run (stamp : String) (files : FileTree) (script : Script) : Outcome :=
  let opened : Outcome := Outcome.performAll stamp { files } script.opening
  match files.read? script.input with
  | none => { opened with failure := some (.unreadable script.input) }
  | some bytes =>
    match DeclarationFile.decode bytes with
    | .error fault => { opened with failure := some (.declarations fault) }
    | .ok declarations => opened.performAll stamp (script.proceed declarations)

/-- Carries out a command in a directory at a time of day. -/
def Outcome.ofCommand (palette : Palette) (clock : String) (files : FileTree)
    (command : Command) : Outcome :=
  match Script.ofCommand palette command with
  | .error error => { files, failure := some (.options error) }
  | .ok script => script.run (palette.paint .timestamp clock) files

end ValueBuilder
