import ValueBuilder.Builder.Section
import ValueBuilder.Declaration.Conversion
import ValueBuilder.Generation.Statistics
import ValueBuilder.Text.Sorted

/-!
# Generation

One Java file is generated for each requested type of a declaration file.  A type that cannot be
converted or written is skipped with a warning, and the others are generated all the same.
-/

namespace ValueBuilder

open Java

/-! ## Requests -/

/-- The names of requested types, or none when all are. -/
abbrev Request := Option (List String)

/-- Whether a name means a declared type: it is its full name or its simple one. -/
def TypeDeclaration.isNamed (declaration : TypeDeclaration) (name : String) : Bool :=
  name == declaration.name || name == declaration.simpleName

/-- Whether a declared type is requested. -/
def TypeDeclaration.isRequested (request : Request) (declaration : TypeDeclaration) : Bool :=
  match request with
  | none => true
  | some names => names.any declaration.isNamed

/-- The requested names that mean no declared type, in ascending order. -/
def unknownRequests (request : Request) (types : List TypeDeclaration) : List String :=
  sorted ((request.getD []).filter fun name => !types.any (·.isNamed name))

/-! ## Conversion -/

/-- What is planned for declared types, and what was counted on the way. -/
structure Plan where
  blueprints : List Blueprint
  statistics : Statistics

/-- The blueprint of a declared type, unless it is not requested or cannot be converted. -/
def TypeDeclaration.plan (request : Request) (declaration : TypeDeclaration) : Plan :=
  if declaration.isRequested request then
    match declaration.convert with
    | .ok conversion => ⟨[conversion.blueprint], .ofWarnings conversion.warnings⟩
    | .error error => ⟨[], .ofWarnings [.conversionFailed declaration.name error.message]⟩
  else ⟨[], .ofFiltered⟩

/-- The blueprints of all requested types, in the order of the declarations. -/
def DeclarationFile.plan (request : Request) (file : DeclarationFile) : Plan :=
  let parts := file.types.map (·.plan request)
  { blueprints := parts.flatMap (·.blueprints)
    statistics :=
      .ofDeclared file.types.length +
        .ofWarnings ((unknownRequests request file.types).map .unknownRequest) +
        (parts.map (·.statistics)).sum }

/-! ## Files -/

/-- What all generated files have in common. -/
structure Settings where
  level : SourceLevel := .java6
  generator : String := Blueprint.defaultGenerator

/-- A generated Java file. -/
structure GeneratedFile where
  /-- The directories below the output directory. -/
  directories : List String
  name : String
  /-- The qualified name of the type that the file is for. -/
  typeName : String
  code : String
  deriving Repr, DecidableEq

/-- The steps of the path below the output directory. -/
def GeneratedFile.path (file : GeneratedFile) : List String :=
  file.directories ++ [file.name]

/-- The directories of a package; the default package has none. -/
def packageDirectories (package : String) : List String :=
  (parts '.' package).filter (!·.isEmpty)

/-- The text of the file that a blueprint plans. -/
def Blueprint.code (settings : Settings) (b : Blueprint) : Except EmissionError String := do
  let u ← b.write settings.generator (.ofPackage b.target.package settings.level)
  u.finish.mapError fun cause => ⟨b.target.qualifiedName, .footer, cause⟩

/-- The file that a blueprint plans. -/
def Blueprint.file (settings : Settings) (b : Blueprint) : Except EmissionError GeneratedFile := do
  let code ← b.code settings
  return {
    directories := packageDirectories b.generated.package
    name := b.generated.simpleName ++ ".java"
    typeName := b.target.qualifiedName
    code }

/-! ## Runs -/

/-- The files of a run and what it counted. -/
structure Generation where
  files : List GeneratedFile
  statistics : Statistics

/-- The file of one blueprint, or a warning. -/
def Blueprint.generation (settings : Settings) (b : Blueprint) : Generation :=
  match b.file settings with
  | .ok file => ⟨[file], .ofGenerated b⟩
  | .error error =>
    ⟨[], .ofWarnings [.generationFailed b.target.qualifiedName error.fullMessage]⟩

/-- Generates the files of all requested types. -/
def DeclarationFile.generate (settings : Settings) (request : Request) (file : DeclarationFile) :
    Generation :=
  let plan := file.plan request
  let parts := plan.blueprints.map (·.generation settings)
  { files := parts.flatMap (·.files)
    statistics := plan.statistics + (parts.map (·.statistics)).sum }

/-! ## Headers -/

/-- The comment at the top of a file that names its source. -/
def fileHeader (generator source : String) : String :=
  "// AUTO-GENERATED CODE - DO NOT EDIT!\n// Source: " ++ source ++ "\n// Generated by `" ++
    generator ++ "`\n\n"

/-- The files with a header that names their source. -/
def Generation.withHeaders (settings : Settings) (source : String) (generation : Generation) :
    Generation :=
  { generation with
    files := generation.files.map fun file =>
      { file with code := fileHeader settings.generator source ++ file.code } }

end ValueBuilder
