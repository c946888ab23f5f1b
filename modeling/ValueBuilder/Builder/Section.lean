import ValueBuilder.Builder.Header
import ValueBuilder.Builder.Serializer
import ValueBuilder.Source.Unit

/-!
# Writing the generated class

The class is written section by section.  Writing stops at the first section after which the unit
has an error pending.
-/

namespace ValueBuilder

open Java

/-- The sections of a generated class. -/
inductive Section
  | header
  | propertyEnum
  | fields
  | accessors
  | valueType
  | serializer
  | build
  | mergeFromValue
  | mergeFromBuilder
  | clear
  | partialType
  | buildPartial
  | footer
  deriving Repr, DecidableEq

namespace Section

/-- The sections in the order in which they are written. -/
def all : List Section :=
  [header, propertyEnum, fields, accessors, valueType, serializer, build, mergeFromValue,
    mergeFromBuilder, clear, partialType, buildPartial, footer]

/-- The name in error texts. -/
def name : Section → String
  | header => "header"
  | propertyEnum => "property_enum"
  | fields => "fields"
  | accessors => "accessors"
  | valueType => "value_type"
  | serializer => "gwt_serializer"
  | build => "build"
  | mergeFromValue => "merge_from_value"
  | mergeFromBuilder => "merge_from_builder"
  | clear => "clear"
  | partialType => "partial_type"
  | buildPartial => "build_partial"
  | footer => "footer"

/-- Whether a blueprint has the section. -/
def appliesTo (b : Blueprint) : Section → Bool
  | propertyEnum => b.hasRequired
  | serializer => b.gwtSerializable
  | _ => true

/-- The code of a section. -/
def code (generator : String) (level : SourceLevel) (b : Blueprint) : Section → Code
  | header => b.header generator
  | propertyEnum => b.propertyEnumClass
  | fields => b.fields level
  | accessors => b.accessors
  | valueType => b.valueType
  | serializer => b.serializer
  | build => b.build
  | mergeFromValue => b.mergeFromValue
  | mergeFromBuilder => b.mergeFromBuilder
  | clear => b.clear
  | partialType => b.partialType
  | buildPartial => b.buildPartial
  | footer => ["\x7d"]

end Section

/-- An error that was pending after a section. -/
structure EmissionError where
  typeName : String
  phase : Section
  cause : TemplateError
  deriving Repr, DecidableEq

/-- The text of the error, without its cause. -/
def EmissionError.message (error : EmissionError) : String :=
  s!"failed to emit {error.phase.name} for {error.typeName}"

/-- The text of the error and of its cause. -/
def EmissionError.fullMessage (error : EmissionError) : String :=
  error.message ++ ": " ++ error.cause.message

namespace Blueprint

/-- The name that generated classes give for their generator. -/
def defaultGenerator : String := "javabuilder-gen"

/-- Appends one section. -/
def writeSection (generator : String) (b : Blueprint) (u : SourceUnit) (s : Section) :
    Except EmissionError SourceUnit :=
  let u := u.append (s.code generator u.level b)
  match u.error with
  | some cause => .error ⟨b.target.qualifiedName, s, cause⟩
  | none => .ok u

/-- The sections of the blueprint, in order. -/
def sections (b : Blueprint) : List Section :=
  Section.all.filter (·.appliesTo b)

/-- Writes the generated class into a unit. -/
def write (generator : String) (b : Blueprint) (u : SourceUnit) :
    Except EmissionError SourceUnit :=
  b.sections.foldlM (b.writeSection generator) (u.reserve b.memberClasses)

end Blueprint

end ValueBuilder
