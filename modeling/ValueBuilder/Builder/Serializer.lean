import ValueBuilder.Builder.Building
import ValueBuilder.Builder.Values

/-!
# The serializer of finished values

A nested class that writes the fields of a finished value to a stream and reads them back in the
same order, each into a local variable that is passed on to a new builder.
-/

namespace ValueBuilder.Blueprint

open Java

/-- The local variable for the stream that is read. -/
def streamReader (b : Blueprint) : String :=
  b.localName "reader"

/-- The local variable for the builder that is filled. -/
def streamBuilder (b : Blueprint) : String :=
  b.localName "builder"

/-- The statement that reads a property's field into a local variable. -/
def readField (p : Property) (reader : String) : Statement :=
  match p.storedPrimitive? with
  | some primitive =>
    .template "        %s %s = %s.read%s();"
      [p.storedType, .name p.name, .name reader, primitive.streamSuffix]
  | none =>
    .template "        %1$s %2$s = (%1$s) %3$s.readObject();"
      [p.storedType, .name p.name, .name reader]

/-- The statement that writes a property's field. -/
def writeField (p : Property) : Statement :=
  match p.storedPrimitive? with
  | some primitive =>
    .template "      writer.write%s(instance.%s);" [primitive.streamSuffix, .name p.name]
  | none => .template "      writer.writeObject(instance.%s);" [.name p.name]

/-- The block that reads one property and passes it on. -/
def restoreField (b : Blueprint) (p : Property) : Code :=
  joined
    [["      \x7b", readField p b.streamReader],
      p.setFromResult b.streamBuilder p.name,
      ["      \x7d"]]

/-- The head of the serializer, and the methods that do not depend on the properties. -/
def serializerHead (b : Blueprint) : Code :=
  ["", .template "  @%s" [Library.gwtCompatible],
    .template "  public static class %s_CustomFieldSerializer" [.name b.valueClass.simpleName],
    .template "      extends %s<%s> \x7b" [Library.customFieldSerializer, b.valueClass],
    "",
    "    @Override",
    .template "    public void deserializeInstance(%s reader, %s instance) \x7b\x7d"
      [Library.streamReader, b.valueClass],
    "",
    "    @Override",
    "    public boolean hasCustomInstantiateInstance() \x7b",
    "      return true;",
    "    \x7d",
    ""]

/-- The method that makes a value from a stream. -/
def instantiate (b : Blueprint) (factory : Factory) : Code :=
  joined
    [if b.properties.any (!·.castIsChecked) then
        [.template "    @%s(\"unchecked\")" [Library.suppressWarnings]]
      else [],
      ["    @Override",
        .template "    public %s instantiateInstance(%s %s)"
          [b.valueClass, Library.streamReader, .name b.streamReader],
        .template "        throws %s \x7b" [Library.serializationException],
        .template "      %s %s = %s;" [b.builder, .name b.streamBuilder, b.newBuilder factory]],
      b.properties.flatMap b.restoreField,
      [.template "      return (%s) %s.build();" [b.valueClass, .name b.streamBuilder],
        "    \x7d"]]

/-- The method that writes a value to a stream. -/
def serialize (b : Blueprint) : Code :=
  joined
    [["", "    @Override",
        .template "    public void serializeInstance(%s writer, %s instance)"
          [Library.streamWriter, b.valueClass],
        .template "        throws %s \x7b" [Library.serializationException]],
      b.properties.map writeField,
      ["    \x7d"]]

/-- The serializer, if there is a way to make builders. -/
def serializer (b : Blueprint) : Code :=
  match b.factory with
  | none => []
  | some factory => joined [b.serializerHead, b.instantiate factory, b.serialize, ["  \x7d"]]

end ValueBuilder.Blueprint
