import ValueBuilder.Builder.Layout

/-!
# Accessors of plain properties

A setter that refuses `null` and a getter that refuses to answer while the property is unset.
-/

namespace ValueBuilder.Accessors

open Java

/-- Says that a setter refuses `null`. -/
def throwsIfArgumentNull (p : Property) : Statement :=
  .template "   * @throws NullPointerException if \x7b@code %s\x7d is null" [.name p.name]

/-- The statement that stores a setter's argument. -/
def storeArgument (p : Property) (checked : Bool) : Statement :=
  if checked then
    .template "    this.%1$s = %2$s.checkNotNull(%1$s);" [.name p.name, Library.preconditions]
  else .template "    this.%1$s = %1$s;" [.name p.name]

/-- The setter of a plain property. -/
def plainSetter (b : Blueprint) (p : Property) (setter : String) : Code :=
  joined
    [["", "  /**",
        b.linkGetter p "   * Sets the value to be returned by \x7b@link %s#%s()\x7d.",
        "   *",
        b.returnsBuilder],
      if p.type.isPrimitive then [] else [throwsIfArgumentNull p],
      ["   */",
        .template "  public %s %s(%s %s) \x7b" [b.builder, .name setter, p.type, .name p.name],
        storeArgument p !p.type.isPrimitive],
      if p.tracksUnset then [.template "    _unsetProperties.remove(%s);" [b.constantOf p]] else [],
      [b.returnBuilder, "  \x7d"]]

/-- The getter of a plain property. -/
def plainGetter (b : Blueprint) (p : Property) : Code :=
  joined
    [["", "  /**",
        b.linkGetter p "   * Returns the value that will be returned by \x7b@link %s#%s()\x7d."],
      if p.tracksUnset then
        ["   *", "   * @throws IllegalStateException if the field has not been set"]
      else [],
      ["   */", .template "  public %s get%s() \x7b" [p.type, .name p.capitalized]],
      if p.tracksUnset then
        [.template "    %s.checkState(" [Library.preconditions],
          .template "        !_unsetProperties.contains(%s)," [b.constantOf p],
          .template "        \"%s not set\");" [.name p.name]]
      else [],
      [.template "    return %s;" [.name p.name], "  \x7d"]]

/-- The accessors of a plain property. -/
def plain (b : Blueprint) (p : Property) (setter : String) : Code :=
  joined [plainSetter b p setter, plainGetter b p]

end ValueBuilder.Accessors
