import ValueBuilder.Builder.Accessors.ListAccessors
import ValueBuilder.Builder.Accessors.MapAccessors
import ValueBuilder.Builder.Accessors.Optional
import ValueBuilder.Builder.Accessors.SetAccessors

/-!
# What a strategy contributes

The fragments of a generated class that concern one property: its fields in the builder and in
finished values, its accessors, and the statements that copy, merge and clear it.
-/

namespace ValueBuilder.Property

open Java

/-! ## The builder -/

/-- A field of the builder that holds a new list or set. -/
def elementsField (level : SourceLevel) (p : Property) (collection : ClassName) (e : Element) :
    Statement :=
  .template
    (if level.infersTypeArguments then "  private %1$s<%2$s> %3$s = new %1$s<>();"
      else "  private %1$s<%2$s> %3$s = new %1$s<%2$s>();")
    [collection, e.type, .name p.name]

/-- A field of the builder that holds a new map. -/
def entriesField (level : SourceLevel) (p : Property) (key value : Element) : Statement :=
  .template
    (if level.infersTypeArguments then "  private %1$s<%2$s, %3$s> %4$s = new %1$s<>();"
      else "  private %1$s<%2$s, %3$s> %4$s = new %1$s<%2$s, %3$s>();")
    [Library.linkedHashMap, key.type, value.type, .name p.name]

/-- The property's field in the builder. -/
def builderField (level : SourceLevel) (p : Property) : Code :=
  match p.strategy with
  | .plain .. => [.template "  private %s %s;" [p.type, .name p.name]]
  | .optional _ _ e =>
    ["  // Store a nullable object instead of an Optional. Escape analysis then",
      "  // allows the JVM to optimize away the Optional objects created by and",
      "  // passed to our API.",
      .template "  private %s %s = null;" [e.type, .name p.name]]
  | .list e => [p.elementsField level Library.arrayList e]
  | .set e => [p.elementsField level Library.linkedHashSet e]
  | .map key value => [p.entriesField level key value]

/-- The property's methods in the builder. -/
def accessors (b : Blueprint) (p : Property) : Code :=
  match p.strategy with
  | .plain setter _ => Accessors.plain b p setter
  | .optional flavour methods e => Accessors.optional b p flavour methods e
  | .list e => Accessors.list b p e
  | .set e => Accessors.set b p e
  | .map key value => Accessors.map b p key value

/-! ## Finished values -/

/-- The property's field in finished values. -/
def valueField (p : Property) : Code :=
  match p.strategy with
  | .optional _ _ e =>
    ["    // Store a nullable object instead of an Optional. Escape analysis then",
      "    // allows the JVM to optimize away the Optional objects created by our",
      "    // getter method.",
      .template "    private final %s %s;" [e.type, .name p.name]]
  | _ => [.template "    private final %s %s;" [p.storedType, .name p.name]]

/-- The statement that takes a field's value from a builder; collections are copied. -/
def assignField (p : Property) (field : Piece) (builder : String) : Code :=
  let copied (collection : ClassName) : Code :=
    [.template "      %s = %s.copyOf(%s.%s);" [field, collection, .name builder, .name p.name]]
  match p.strategy with
  | .plain .. | .optional .. =>
    [.template "      %s = %s.%s;" [field, .name builder, .name p.name]]
  | .list _ => copied Library.immutableList
  | .set _ => copied Library.immutableSet
  | .map .. => copied Library.immutableMap

/-- The statement that answers the property's value. -/
def getterBody (p : Property) : Code :=
  match p.strategy with
  | .optional flavour _ _ => [Accessors.returnOptional "      return %s.%s(%s);" p flavour]
  | _ => [.template "      return %s;" [.name p.name]]

/-! ## Merging -/

/-- The statement that merges the property of a finished value into the builder. -/
def mergeValue (p : Property) (value : String) : Code :=
  let taken (template stem : String) : Code :=
    [.template template [.name stem, .name value, .name p.getter]]
  match p.strategy with
  | .plain setter _ => taken "    %s(%s.%s());" setter
  | .optional _ methods _ => taken "    %s(%s.%s());" methods.optionalSetter
  | .list _ | .set _ => taken "    addAll%s(%s.%s());" p.capitalized
  | .map .. => taken "    putAll%s(%s.%s());" p.capitalized

/-- The local variable that holds the properties that are unset on the other builder. -/
def templateUnset (b : Blueprint) : String :=
  b.localName "_templateUnset"

/-- The statements that merge the property of another builder into the builder; what is unset there
is left alone. -/
def mergeBuilder (b : Blueprint) (p : Property) (builder : String) : Code :=
  let fromGetter (template setter : String) : Statement :=
    .template template [.name setter, .name builder, .name p.capitalized]
  let fromField (template : String) : Code :=
    [.template template [.name p.capitalized, b.generated, .name builder, .name p.name]]
  match p.strategy with
  | .plain setter _ =>
    if p.tracksUnset then
      [.template "    if (!%s.contains(%s)) \x7b" [.name (templateUnset b), b.constantOf p],
        fromGetter "      %s(%s.get%s());" setter,
        "    \x7d"]
    else [fromGetter "    %s(%s.get%s());" setter]
  | .optional _ methods _ => [fromGetter "    %s(%s.get%s());" methods.optionalSetter]
  | .list _ | .set _ => fromField "    addAll%s(((%s) %s).%s);"
  | .map .. => fromField "    putAll%s(((%s) %s).%s);"

/-- The statement that gives a stored value to a fresh builder. -/
def setFromResult (p : Property) (builder stored : String) : Code :=
  let passed (template stem : String) : Code :=
    [.template template [.name builder, .name stem, .name stored]]
  match p.strategy with
  | .plain setter _ => passed "        %s.%s(%s);" setter
  | .optional _ methods _ => passed "        %s.%s(%s);" methods.nullableSetter
  | .list _ | .set _ => passed "        %s.addAll%s(%s);" p.capitalized
  | .map .. => passed "        %s.putAll%s(%s);" p.capitalized

/-! ## Clearing -/

/-- Whether the property is a collection that is emptied in place. -/
def isCollection (p : Property) : Bool :=
  !p.strategy.clearsFromTemplate

/-- The statement that clears the property, given a fresh builder to copy from. -/
def clear (p : Property) (template : String) : Code :=
  match p.strategy with
  | .plain .. | .optional .. =>
    [.template "    %1$s = %2$s.%1$s;" [.name p.name, .name template]]
  | .list _ | .set _ | .map .. => [.template "    %s.clear();" [.name p.name]]

/-- The statement that clears the property without a fresh builder.  A primitive field keeps its
value. -/
def clearAlone (p : Property) : Code :=
  let setNull : Code := [.template "    %s = null;" [.name p.name]]
  match p.strategy with
  | .plain .. => if p.type.isPrimitive then [] else setNull
  | .optional .. => setNull
  | .list _ | .set _ | .map .. => [.template "    %s.clear();" [.name p.name]]

end ValueBuilder.Property
