import ValueBuilder.Builder.Storage

/-!
# The top of the generated class

The documented class header, the enum of required properties and the builder's fields.
-/

namespace ValueBuilder.Blueprint

open Java

/-- The class header, its annotations and the joiner that `toString` uses. -/
def header (b : Blueprint) (generator : String) : Code :=
  joined
    [["/**",
        .template " * Auto-generated superclass of \x7b@link %s\x7d," [b.builder],
        .template " * derived from the API of \x7b@link %s\x7d." [b.target],
        " */",
        .template "@%s(\"%s\")" [Library.generated, .name generator]],
      if b.gwtCompatible then [.template "@%s" [Library.gwtCompatible]] else [],
      [if b.serializable then
          .template "abstract class %s implements %s \x7b" [b.generated, Library.serializable]
        else .template "abstract class %s \x7b" [b.generated],
        "",
        .template "  private static final %s COMMA_JOINER = %s.on(\", \").skipNulls();"
          [Library.joiner, Library.joiner]]]

/-- The enum with a constant for each required property. -/
def propertyEnumClass (b : Blueprint) : Code :=
  joined
    [["", .template "  private enum %s \x7b" [.name b.propertyEnum.simpleName]],
      b.required.map fun p =>
        .template "    %s(\"%s\")," [Word.constant p.constant, .name p.name],
      ["    ;",
        "",
        "    private final String name;",
        "",
        .template "    private %s(String name) \x7b" [.name b.propertyEnum.simpleName],
        "      this.name = name;",
        "    \x7d",
        "",
        "    @Override public String toString() \x7b",
        "      return name;",
        "    \x7d",
        "  \x7d"]]

/-- The builder's fields, and the set of properties that are still unset. -/
def fields (level : SourceLevel) (b : Blueprint) : Code :=
  joined
    [[""],
      b.properties.flatMap (·.builderField level),
      if b.hasRequired then
        [.template "  private final %s<%s> _unsetProperties =" [Library.enumSet, b.propertyEnum],
          .template "      %s.allOf(%s.class);" [Library.enumSet, b.propertyEnum]]
      else []]

/-- The accessors of all properties. -/
def accessors (b : Blueprint) : Code :=
  b.properties.flatMap (Property.accessors b)

end ValueBuilder.Blueprint
