import ValueBuilder.Builder.Storage

/-!
# Methods of the generated class

The methods that make values, merge values and builders, and reset the builder.
-/

namespace ValueBuilder.Blueprint

open Java

/-! ## Building -/

/-- The method that makes a finished value. -/
def build (b : Blueprint) : Code :=
  joined
    [["", "  /**",
        .template
          "   * Returns a newly-created \x7b@link %s\x7d based on the contents of the \x7b@code %s\x7d."
          [b.target, b.builderName]],
      if b.hasRequired then
        ["   *", "   * @throws IllegalStateException if any field has not been set"]
      else [],
      ["   */", .template "  public %s build() \x7b" [b.target]],
      if b.hasRequired then
        [.template
          "    %s.checkState(_unsetProperties.isEmpty(), \"Not set: %%s\", _unsetProperties);"
          [Library.preconditions]]
      else [],
      [.template "    return new %s(this);" [b.valueClass], "  \x7d"]]

/-- The method that makes a value that may lack properties. -/
def buildPartial (b : Blueprint) : Code :=
  joined
    [["", "  /**",
        .template "   * Returns a newly-created partial \x7b@link %s\x7d" [b.target],
        .template "   * based on the contents of the \x7b@code %s\x7d." [b.builderName],
        "   * State checking will not be performed."],
      if b.hasRequired then
        ["   * Unset properties will throw an \x7b@link UnsupportedOperationException\x7d",
          "   * when accessed via the partial object."]
      else [],
      ["   *",
        "   * <p>Partials should only ever be used in tests.",
        "   */",
        .template "  @%s()" [Library.visibleForTesting],
        .template "  public %s buildPartial() \x7b" [b.target],
        .template "    return new %s(this);" [b.partialClass],
        "  \x7d"]]

/-! ## Merging -/

/-- The method that merges a finished value into the builder. -/
def mergeFromValue (b : Blueprint) : Code :=
  joined
    [["", "  /**",
        .template "   * Sets all property values using the given \x7b@code %s\x7d as a template."
          [b.target],
        "   */",
        .template "  public %s mergeFrom(%s value) \x7b" [b.builder, b.target]],
      b.properties.flatMap (·.mergeValue "value"),
      [b.returnBuilder, "  \x7d"]]

/-- The local variable for another builder whose values are copied. -/
def template (b : Blueprint) : String :=
  b.localName "template"

/-- The method that merges another builder into the builder. -/
def mergeFromBuilder (b : Blueprint) : Code :=
  joined
    [["", "  /**",
        .template "   * Copies values from the given \x7b@code %s\x7d." [b.builderName]],
      if b.hasRequired then ["   * Does not affect any properties not set on the input."] else [],
      ["   */",
        .template "  public %1$s mergeFrom(%1$s %2$s) \x7b" [b.builder, .name b.template]],
      if b.hasRequired then
        ["    // Upcast to access the private _unsetProperties field.",
          "    // Otherwise, oddly, we get an access violation.",
          .template "    %s<%s> %s = ((%s) %s)._unsetProperties;"
            [Library.enumSet, b.propertyEnum, .name (Property.templateUnset b), b.generated,
              .name b.template]]
      else [],
      b.properties.flatMap fun p => p.mergeBuilder b b.template,
      [b.returnBuilder, "  \x7d"]]

/-! ## Clearing -/

/-- The expression that makes a new builder. -/
def newBuilder (b : Blueprint) (factory : Factory) : Word :=
  .creation factory.opening (factory.namedClass b.builder b.target) factory.closing

/-- Whether clearing copies anything from a fresh builder. -/
def clearsFromTemplate (b : Blueprint) : Bool :=
  b.hasRequired || b.properties.any (·.strategy.clearsFromTemplate)

/-- The statements that reset the builder to the state of a fresh one. -/
def clearToTemplate (b : Blueprint) (factory : Factory) : Code :=
  joined
    [if b.clearsFromTemplate then
        [.template "    %s %s = %s;" [b.generated, .name b.template, b.newBuilder factory]]
      else [],
      b.properties.flatMap (·.clear b.template),
      if b.hasRequired then
        ["    _unsetProperties.clear();",
          .template "    _unsetProperties.addAll(%s._unsetProperties);" [.name b.template]]
      else []]

/-- The statements that reset a builder of which no fresh one can be made: every required property
is unset again. -/
def clearToNothing (b : Blueprint) : Code :=
  joined
    [b.properties.flatMap Property.clearAlone,
      if b.hasRequired then
        ["    _unsetProperties.clear();",
          .template "    _unsetProperties.addAll(%s.allOf(%s.class));"
            [Library.enumSet, b.propertyEnum]]
      else []]

/-- The method that resets the builder. -/
def clear (b : Blueprint) : Code :=
  joined
    [["", "  /**", "   * Resets the state of this builder.", "   */",
        .template "  public %s clear() \x7b" [b.builder]],
      match b.factory with
      | some factory => b.clearToTemplate factory
      | none => b.clearToNothing,
      [b.returnBuilder, "  \x7d"]]

end ValueBuilder.Blueprint
