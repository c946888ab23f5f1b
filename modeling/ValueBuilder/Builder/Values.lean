import ValueBuilder.Builder.Storage

/-!
# The nested value classes

`Value` holds a finished value, and `Partial` one whose required properties may be unset.  Both
implement the getters, `equals`, `hashCode` and `toString`.
-/

namespace ValueBuilder.Blueprint

open Java

/-! ## Shared shapes -/

/-- How a value class relates to the target. -/
def inheritance (b : Blueprint) : String :=
  if b.isInterface then "implements" else "extends"

/-- The head of a nested class; the template has placeholders for the name of the class, for the
word that relates it to the target, and for the target. -/
def nestedHead (b : Blueprint) (template : String) (c : ClassName) : Statement :=
  .template template [.name c.simpleName, b.inheritance, b.target]

/-- The constructor of a nested class, which takes a builder; the template has placeholders for the
name of the class and for the class of the builder. -/
def nestedConstructor (b : Blueprint) (template : String) (c : ClassName) : Code :=
  joined
    [["", .template template [.name c.simpleName, b.generated]],
      b.properties.flatMap fun p => p.assignField (Word.field "this" p.name) "builder"]

/-- The annotation of a method that overrides one of the target or of `Object`. -/
def overriding : Code :=
  ["", "    @Override"]

/-- A getter. -/
def getter (p : Property) (body : Code) : Code :=
  joined
    [overriding, [.template "    public %s %s() \x7b" [p.type, .name p.getter]], body, ["    \x7d"]]

/-! ## Equality -/

/-- The argument of `equals`. -/
def equalsArgument (b : Blueprint) : String :=
  b.localName "obj"

/-- The argument of `equals` once its class is known. -/
def equalsOther (b : Blueprint) : String :=
  b.localName "other"

/-- The first statements of `equals`, which judge the class of the argument. -/
def equalsHead (b : Blueprint) (c : ClassName) : Code :=
  joined
    [overriding,
      [.template "    public boolean equals(Object %s) \x7b" [.name b.equalsArgument],
        .template "      if (!(%s instanceof %s)) \x7b" [.name b.equalsArgument, c],
        "        return false;",
        "      \x7d",
        .template "      %1$s %2$s = (%1$s) %3$s;"
          [c, .name b.equalsOther, .name b.equalsArgument]]]

/-- The condition under which two values differ in a property.  Floating-point fields are compared
by their bits, so that a field that is no number equals itself. -/
def differs (p : Property) (nullSafe : Bool) (other : String) : Code :=
  let fields : List Piece := [.name p.name, .name other]
  match p.storedPrimitive? with
  | some .float =>
    [.template "      if (%1$s.floatToIntBits(%2$s) != %1$s.floatToIntBits(%3$s.%2$s)) \x7b"
      [Primitive.boxedClass .float, .name p.name, .name other]]
  | some .double =>
    [.template "      if (%1$s.doubleToLongBits(%2$s) != %1$s.doubleToLongBits(%3$s.%2$s)) \x7b"
      [Primitive.boxedClass .double, .name p.name, .name other]]
  | some _ => [.template "      if (%1$s != %2$s.%1$s) \x7b" fields]
  | none =>
    if nullSafe then
      [.template "      if (%1$s != %2$s.%1$s" fields,
        .template "          && (%1$s == null || !%1$s.equals(%2$s.%1$s))) \x7b" fields]
    else [.template "      if (!%1$s.equals(%2$s.%1$s)) \x7b" fields]

/-- The statement that answers `false` if two values differ in a property. -/
def compareField (p : Property) (nullSafe : Bool) (other : String) : Code :=
  joined [differs p nullSafe other, ["        return false;", "      \x7d"]]

/-- The method `equals` of a nested class. -/
def equals (b : Blueprint) (c : ClassName) (nullSafe : Property → Bool) (result : Statement) :
    Code :=
  joined
    [b.equalsHead c,
      b.properties.flatMap fun p => compareField p (nullSafe p) b.equalsOther,
      [result, "    \x7d"]]

/-! ## Text -/

/-- A property in a text. -/
def labelled (p : Property) : List Word :=
  ["\"", .name p.name, "=\" + ", .name p.name]

/-- A property in a text that leaves out `null`. -/
def labelledUnlessNull (p : Property) : List Word :=
  joined [["(", .name p.name, " != null ? "], labelled p, [" : null)"]]

/-- A property in a text that leaves out what is unset. -/
def labelledUnlessUnset (b : Blueprint) (p : Property) : List Word :=
  joined
    [["(!_unsetProperties.contains(", b.constantOf p, ")\n                  ? "], labelled p,
      [" : null)"]]

/-- The lines of the arguments of a call, with commas between them and a parenthesis at the end. -/
def argumentList : List (List Word) → Code
  | [] => []
  | [last] => [.verbatim (joined [["              "], last, [")"]])]
  | item :: rest => .verbatim (joined [["              "], item, [","]]) :: argumentList rest

/-- Statements that answer a text of the items that are not `null`. -/
def joinedText (opening : List Word) (items : List (List Word)) : Code :=
  joined
    [[.verbatim (joined [["      return "], opening]), "          + COMMA_JOINER.join("],
      argumentList items,
      ["          + \"\x7d\";"]]

/-- The lines that append each property to a text, the last one with the closing brace. -/
def concatenated : List Property → Code
  | [] => []
  | [last] => [.verbatim (joined [["          + "], labelled last, [" + \"\x7d\";"]])]
  | p :: rest =>
    .verbatim (joined [["          + "], labelled p, [" + \", \""]]) :: concatenated rest

/-- The method `toString` of a nested class. -/
def toStringMethod (body : Code) : Code :=
  joined [overriding, ["    public String toString() \x7b"], body, ["    \x7d"]]

/-! ## Finished values -/

/-- What stands between the parentheses of an array of all fields. -/
def fieldNames (b : Blueprint) : String :=
  ", ".intercalate (b.properties.map (·.name))

/-- The method `hashCode` of finished values. -/
def valueHash (b : Blueprint) : Code :=
  joined
    [overriding,
      ["    public int hashCode() \x7b",
        if b.fieldNames.isEmpty then
          .template "      return %s.hashCode(new Object[] \x7b\x7d);" [Library.arrays]
        else
          .template "      return %s.hashCode(new Object[] \x7b %s \x7d);"
            [Library.arrays, .name b.fieldNames],
        "    \x7d"]]

/-- The statements of `toString` of finished values. -/
def valueText (b : Blueprint) : Code :=
  let name : Word := .name b.target.simpleName
  if b.properties.isEmpty then [.verbatim ["      return \"", name, "\x7b\x7d\";"]]
  else if b.hasOptional then
    joinedText ["\"", name, "\x7b\""]
      (b.properties.map fun p => if p.isNullable then labelledUnlessNull p else labelled p)
  else joined [[.verbatim ["      return \"", name, "\x7b\""]], concatenated b.properties]

/-- The head of the class of finished values. -/
def valueHead (b : Blueprint) : Code :=
  if b.gwtSerializable then
    ["", .template "  @%s(serializable = true)" [Library.gwtCompatible],
      b.nestedHead "  static final class %s %s %s \x7b" b.valueClass]
  else ["", b.nestedHead "  private static final class %s %s %s \x7b" b.valueClass]

/-- The class of finished values. -/
def valueType (b : Blueprint) : Code :=
  joined
    [b.valueHead,
      b.properties.flatMap Property.valueField,
      b.nestedConstructor "    private %s(%s builder) \x7b" b.valueClass,
      ["    \x7d"],
      b.properties.flatMap fun p => getter p p.getterBody,
      b.equals b.valueClass Property.isNullable "      return true;",
      b.valueHash,
      toStringMethod b.valueText,
      ["  \x7d"]]

/-! ## Partial values -/

/-- The getter of a partial value, which refuses to answer for an unset property. -/
def partialGetter (b : Blueprint) (p : Property) : Code :=
  getter p
    (joined
      [if p.tracksUnset then
          [.template "      if (_unsetProperties.contains(%s.%s)) \x7b"
              [b.propertyEnum, Word.constant p.constant],
            .verbatim
              ["        throw new UnsupportedOperationException(\"", .name p.name, " not set\");"],
            "      \x7d"]
        else [],
        p.getterBody])

/-- The local variable in which a hash code grows. -/
def hashResult (b : Blueprint) : String :=
  b.localName "result"

/-- The statement that makes room for the next field in a hash code. -/
def shiftHash (b : Blueprint) : Statement :=
  .template "      %s *= 31;" [.name b.hashResult]

/-- The statement that adds a field to a hash code. -/
def addHash (b : Blueprint) (p : Property) : Statement :=
  match p.storedPrimitive? with
  | some primitive =>
    .template "      %s += ((%s) %s).hashCode();"
      [.name b.hashResult, primitive.boxedClass, .name p.name]
  | none =>
    .template "      %1$s += ((%2$s == null) ? 0 : %2$s.hashCode());"
      [.name b.hashResult, .name p.name]

/-- The method `hashCode` of partial values. -/
def partialHash (b : Blueprint) : Code :=
  joined
    [overriding,
      ["    public int hashCode() \x7b", .template "      int %s = 1;" [.name b.hashResult]],
      b.properties.flatMap fun p => [b.shiftHash, b.addHash p],
      if b.hasRequired then
        [b.shiftHash,
          .template "      %s += _unsetProperties.hashCode();" [.name b.hashResult]]
      else [],
      [.template "      return %s;" [.name b.hashResult], "    \x7d"]]

/-- The statements of `toString` of partial values. -/
def partialText (b : Blueprint) : Code :=
  let name : Word := .name b.target.simpleName
  if b.properties.isEmpty then [.verbatim ["      return \"partial ", name, "\x7b\x7d\";"]]
  else
    joinedText ["\"partial ", name, "\x7b\""]
      (b.properties.map fun p =>
        if p.tracksUnset then b.labelledUnlessUnset p
        else if p.isNullable then labelledUnlessNull p
        else labelled p)

/-- The statement that ends `equals` of partial values. -/
def partialEqualsResult (b : Blueprint) : Statement :=
  if b.hasRequired then
    .template "      return _unsetProperties.equals(%s._unsetProperties);" [.name b.equalsOther]
  else "      return true;"

/-- The class of values that may lack properties. -/
def partialType (b : Blueprint) : Code :=
  joined
    [["", b.nestedHead "  private static final class %s %s %s \x7b" b.partialClass],
      b.properties.flatMap Property.valueField,
      if b.hasRequired then
        [.template "    private final %s<%s> _unsetProperties;" [Library.enumSet, b.propertyEnum]]
      else [],
      b.nestedConstructor "    %s(%s builder) \x7b" b.partialClass,
      if b.hasRequired then ["      this._unsetProperties = builder._unsetProperties.clone();"]
      else [],
      ["    \x7d"],
      b.properties.flatMap b.partialGetter,
      b.equals b.partialClass (fun p => p.isNullable || p.tracksUnset) b.partialEqualsResult,
      b.partialHash,
      toStringMethod b.partialText,
      ["  \x7d"]]

end ValueBuilder.Blueprint
