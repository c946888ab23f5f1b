import ValueBuilder.Source.Template

/-!
# Source units

A unit collects the text of a Java file and settles how it names classes.  A template that cannot
be expanded leaves an error; until that is taken, further text has no effect.
-/

namespace ValueBuilder

open Java

/-- A Java file that is being written, or a mere fragment of one. -/
structure SourceUnit where
  body : String
  spelling : Spelling
  level : SourceLevel
  error : Option TemplateError
  deriving Repr

namespace SourceUnit

/-- A fragment, which names classes by their paths and has no imports. -/
def fragment : SourceUnit :=
  ⟨"", .bare, .java6, none⟩

/-- A file of a package. -/
def ofPackage (package : String) (level : SourceLevel) : SourceUnit :=
  ⟨"", .importing (.empty package), level, none⟩

/-- Reserves the simple names of member classes, whether or not an error is pending. -/
def reserve (u : SourceUnit) (members : List ClassName) : SourceUnit :=
  { u with spelling := u.spelling.reserveAll members }

/-- Takes note of the classes of pieces. -/
def mention (u : SourceUnit) (classes : List ClassName) : SourceUnit :=
  { u with spelling := u.spelling.mentionAll classes }

/-- Appends text as it is. -/
def put (u : SourceUnit) (text : String) : SourceUnit :=
  if u.error.isSome then u else { u with body := u.body ++ text }

/-- Appends an expanded template.  When it cannot be expanded, the classes before the fault keep
the names that they claimed, and the error is pending. -/
def add (u : SourceUnit) (template : String) (args : List Piece) : SourceUnit :=
  if u.error.isSome then u
  else
    let expansion := Template.expand template args
    let u := u.mention (expansion.pieces.flatMap Piece.classes)
    match expansion.fault with
    | none => u.put (renderPieces u.spelling expansion.pieces)
    | some fault => { u with error := some ⟨template, fault⟩ }

/-- Appends an expanded template and a line break. -/
def addLine (u : SourceUnit) (template : String) (args : List Piece) : SourceUnit :=
  (u.add template args).put "\n"

/-- Appends a line as it is, percent signs included. -/
def line (u : SourceUnit) (text : String) : SourceUnit :=
  u.put (text ++ "\n")

/-- Writes the line of a statement. -/
def write (u : SourceUnit) : Statement → SourceUnit
  | .template text args => u.addLine text args
  | .verbatim words => u.line (renderWords words)

/-- Writes the lines of code. -/
def append (u : SourceUnit) (code : Code) : SourceUnit :=
  code.foldl write u

/-- Takes the pending error, so that text has an effect again. -/
def takeError (u : SourceUnit) : Option TemplateError × SourceUnit :=
  (u.error, { u with error := none })

/-- The package line of a file, unless it is in the default package. -/
def packageLine (package : String) : String :=
  if package.isEmpty then "" else "package " ++ package ++ ";\n\n"

/-- The import lines of a file and the blank line behind them. -/
def importBlock (imports : List String) : String :=
  if imports.isEmpty then ""
  else imports.foldr (fun name rest => "import " ++ name ++ ";\n" ++ rest) "\n"

/-- What stands before the body. -/
def preamble : Spelling → String
  | .bare => ""
  | .importing table => packageLine table.package ++ importBlock table.imports

/-- The text of the finished unit, or the error that is pending. -/
def finish (u : SourceUnit) : Except TemplateError String :=
  match u.error with
  | some error => .error error
  | none => .ok (preamble u.spelling ++ u.body)

end SourceUnit

end ValueBuilder
