import ValueBuilder.Blueprint.Basic
import ValueBuilder.Declaration.Basic
import ValueBuilder.Generation.Warning
import ValueBuilder.Java.TypeScope

/-!
# From declarations to blueprints

Names and types of a declaration are read in the order of the file's fields, and the first that
cannot be read is the error.  A serializer that is asked for without a builder factory is left out
with a warning.
-/

namespace ValueBuilder

open Java

/-- Why a declaration has no blueprint. -/
inductive ConversionError
  | invalidTypeName (name : String) (cause : InvalidSegment)
  | invalidBuilderName (name : String)
  | invalidImport (name : String) (cause : InvalidSegment)
  | invalidGetter (getter : String)
  | invalidPropertyType (getter : String) (cause : TypeError)
  | inconsistent (cause : BlueprintError)
  deriving Repr, DecidableEq

/-- The text of the error, without its cause. -/
def ConversionError.message : ConversionError → String
  | invalidTypeName name _ => s!"'{name}' is not a valid type name"
  | invalidBuilderName name => s!"builder name '{name}' is not a valid Java identifier"
  | invalidImport name _ => s!"'{name}' is not a valid import"
  | invalidGetter getter => s!"getter '{getter}' is not a valid Java identifier"
  | invalidPropertyType getter _ => s!"getter '{getter}' has an invalid type"
  | inconsistent cause => cause.message

/-- Reads the type of a getter, whose name is checked first. -/
def PropertyDeclaration.readType (scope : TypeScope) (declaration : PropertyDeclaration) :
    Except ConversionError JavaType :=
  if isIdentifier declaration.getter then
    (scope.parse declaration.type).mapError (.invalidPropertyType declaration.getter)
  else .error (.invalidGetter declaration.getter)

/-- A blueprint and what there is to say about it. -/
structure Conversion where
  blueprint : Blueprint
  warnings : List Warning

namespace TypeDeclaration

/-- Whether the declaration asks for a serializer that nothing can feed. -/
def lacksFactory (declaration : TypeDeclaration) : Bool :=
  declaration.gwtSerializable && declaration.builder.factory.isNone

/-- Whether the type gets a serializer. -/
def getsSerializer (declaration : TypeDeclaration) : Bool :=
  declaration.gwtSerializable && declaration.builder.factory.isSome

/-- The properties of getters with their types. -/
def propertiesOf (getters : List (PropertyDeclaration × JavaType)) : List Property :=
  let names := propertyNames (getters.map fun (declaration, type) => (declaration.getter, type))
  List.zipWith (fun (declaration, type) name =>
    Property.ofGetter name declaration.getter type declaration.hasDefault) getters names

/-- The draft of a target and its properties. -/
def draft (declaration : TypeDeclaration) (target : ClassName) (properties : List Property) :
    Draft where
  target
  isInterface := declaration.kind == .interface
  builder := some (target.nested declaration.builder.name)
  factory := declaration.builder.factory
  properties
  serializable := declaration.builder.serializable
  gwtCompatible := declaration.gwtCompatible || declaration.getsSerializer
  gwtSerializable := declaration.getsSerializer

/-- Reads the target and the scope in which property types are read. -/
def readScope (declaration : TypeDeclaration) :
    Except ConversionError (ClassName × TypeScope) := do
  let target ← (ClassName.parse declaration.name).mapError (.invalidTypeName declaration.name)
  unless isIdentifier declaration.builder.name do
    throw (.invalidBuilderName declaration.builder.name)
  let imports ← declaration.imports.mapM fun name =>
    (ClassName.parse name).mapError (.invalidImport name)
  return (target, ⟨target.package, imports⟩)

/-- The warnings about a declaration that has a blueprint. -/
def warnings (declaration : TypeDeclaration) (target : ClassName) : List Warning :=
  if declaration.lacksFactory then [.serializerOmitted target.qualifiedName] else []

/-- Converts a declaration. -/
def convert (declaration : TypeDeclaration) : Except ConversionError Conversion := do
  let (target, scope) ← declaration.readScope
  let types ← declaration.properties.mapM (·.readType scope)
  let properties := propertiesOf (declaration.properties.zip types)
  let blueprint ← (declaration.draft target properties).check.mapError .inconsistent
  return ⟨blueprint, declaration.warnings target⟩

end TypeDeclaration

end ValueBuilder
