import ValueBuilder.Blueprint.Factory
import ValueBuilder.Blueprint.Repeat
import ValueBuilder.Property.Basic

/-!
# Blueprints

All that is needed to generate the builder superclass of one value type.  A draft says what was
asked for; a blueprint is a draft that passed the checks, so that distinct properties have distinct
names, distinct required properties have distinct enum constants, and a serializer comes with a way
to make builders.
-/

namespace ValueBuilder

open Java

/-- What is asked for one value type.  The builder is by default the member class `Builder` of the
target, and the generated class is named after the target and lives in its package. -/
structure Draft where
  target : ClassName
  isInterface : Bool := false
  builder : Option ClassName := none
  factory : Option Factory := none
  generated : Option ClassName := none
  properties : List Property := []
  serializable : Bool := false
  gwtCompatible : Bool := false
  gwtSerializable : Bool := false
  deriving Repr

/-- Why a draft makes no blueprint. -/
inductive BlueprintError
  | duplicateProperty (target : ClassName) (name : String)
  | duplicateConstant (target : ClassName) (constant first second : String)
  | missingFactory (target : ClassName)
  deriving Repr, DecidableEq

/-- The text of the error. -/
def BlueprintError.message : BlueprintError → String
  | duplicateProperty target name => s!"duplicate property '{name}' on {target}"
  | duplicateConstant target constant first second =>
    s!"properties '{first}' and '{second}' of {target} both map to the constant {constant}"
  | missingFactory target => s!"{target} requests GWT serialization but has no builder factory"

/-- The properties that must be set before the builder can build. -/
def requiredOf (properties : List Property) : List Property :=
  properties.filter (·.tracksUnset)

/-- The plan of one generated builder superclass. -/
structure Blueprint where
  target : ClassName
  isInterface : Bool
  builder : ClassName
  factory : Option Factory
  generated : ClassName
  properties : List Property
  serializable : Bool
  gwtCompatible : Bool
  gwtSerializable : Bool
  names_nodup : (properties.map (·.name)).Nodup
  constants_nodup : ((requiredOf properties).map (·.constant)).Nodup
  factory_isSome : gwtSerializable = true → factory.isSome = true

/-- The class that is generated for a target unless a draft names another one. -/
def defaultGenerated (target : ClassName) : ClassName :=
  .topLevel target.package (target.flatName ++ "_Builder")

/-- The builder of a target unless a draft names another one. -/
def defaultBuilder (target : ClassName) : ClassName :=
  target.nested "Builder"

/-- Checks a draft: repeated names first, then repeated constants, then the missing factory. -/
def Draft.check (draft : Draft) : Except BlueprintError Blueprint :=
  match hnames : firstRepeat? (·.name) [] draft.properties with
  | some (_, later) => .error (.duplicateProperty draft.target later.name)
  | none =>
    match hconstants : firstRepeat? (·.constant) [] (requiredOf draft.properties) with
    | some (earlier, later) =>
      .error (.duplicateConstant draft.target later.constant earlier.name later.name)
    | none =>
      if hfactory : draft.gwtSerializable && draft.factory.isNone then
        .error (.missingFactory draft.target)
      else
        .ok
          { target := draft.target
            isInterface := draft.isInterface
            builder := draft.builder.getD (defaultBuilder draft.target)
            factory := draft.factory
            generated := draft.generated.getD (defaultGenerated draft.target)
            properties := draft.properties
            serializable := draft.serializable
            gwtCompatible := draft.gwtCompatible
            gwtSerializable := draft.gwtSerializable
            names_nodup := (firstRepeat?_eq_none hnames).1
            constants_nodup := (firstRepeat?_eq_none hconstants).1
            factory_isSome := by
              intro h
              cases hf : draft.factory <;> simp_all }

namespace Blueprint

/-! ## Member classes -/

/-- The class of finished values. -/
def valueClass (b : Blueprint) : ClassName :=
  b.generated.nested "Value"

/-- The class of values that may lack properties. -/
def partialClass (b : Blueprint) : ClassName :=
  b.generated.nested "Partial"

/-- The enum of required properties. -/
def propertyEnum (b : Blueprint) : ClassName :=
  b.generated.nested "Property"

/-- The class that serializes finished values. -/
def serializerName (b : Blueprint) : String :=
  b.valueClass.simpleName ++ "_CustomFieldSerializer"

/-- The classes that are visible inside the generated class by their simple names alone. -/
def memberClasses (b : Blueprint) : List ClassName :=
  [b.valueClass, b.partialClass, b.propertyEnum, b.builder] ++
    if b.gwtSerializable then [b.generated.nested b.serializerName] else []

/-! ## Properties -/

/-- The properties that must be set before the builder can build. -/
def required (b : Blueprint) : List Property :=
  requiredOf b.properties

/-- Whether any property must be set. -/
def hasRequired (b : Blueprint) : Bool :=
  !b.required.isEmpty

/-- Whether any property is an optional. -/
def hasOptional (b : Blueprint) : Bool :=
  b.properties.any (·.strategy.kind == .optional)

/-- The expression that makes a new builder, if there is a way to make one. -/
def newBuilder? (b : Blueprint) : Option String :=
  b.factory.map (·.expression b.builder b.target)

/-! ## Local variables -/

/-- Prefixes a name with underscores until no name of the list equals it.  A name that was passed
is shorter than all later ones, so it can be left out. -/
def freshName (taken : List String) (name : String) : String :=
  if name ∈ taken then freshName (taken.erase name) ("_" ++ name) else name
termination_by taken.length
decreasing_by
  have := List.length_erase_of_mem ‹name ∈ taken›
  have := List.length_pos_of_mem ‹name ∈ taken›
  omega

/-- A name for a local variable that is no property's name: the preferred one, with underscores
before it as needed. -/
def localName (b : Blueprint) (preferred : String) : String :=
  freshName (b.properties.map (·.name)) preferred

end Blueprint

end ValueBuilder
