import ValueBuilder.Builder.Accessors.Plain

/-!
# Accessors of optional properties

Three setters, for a present value, an optional and a nullable value, a method that makes the
property absent, and a getter that answers an optional.
-/

namespace ValueBuilder.Accessors

open Java

/-- What the setters of an optional property have in common in their documentation. -/
def optionalDocumentation (b : Blueprint) (p : Property) : Code :=
  ["", "  /**",
    b.linkGetter p "   * Sets the value to be returned by \x7b@link %s#%s()\x7d.",
    "   *",
    b.returnsBuilder]

/-- The setter for a present value. -/
def optionalSetter (b : Blueprint) (p : Property) (methods : OptionalMethods) (e : Element) :
    Code :=
  joined
    [optionalDocumentation b p,
      if e.isNullable then [throwsIfArgumentNull p] else [],
      ["   */",
        .template "  public %s %s(%s %s) \x7b"
          [b.builder, .name methods.optionalSetter, e.parameter, .name p.name],
        storeArgument p e.isNullable, b.returnBuilder, "  \x7d"]]

/-- The body of a setter that sets the property if a condition holds and clears it if not. -/
def setOrClear (methods : OptionalMethods) (condition set : Statement) : Code :=
  [condition, set, "    \x7d else \x7b",
    .template "      return %s();" [.name methods.clearMethod], "    \x7d", "  \x7d"]

/-- The setter for an optional. -/
def optionalOptionalSetter (b : Blueprint) (p : Property) (flavour : OptionalFlavour)
    (methods : OptionalMethods) (e : Element) : Code :=
  joined
    [optionalDocumentation b p,
      ["   */",
        .template "  public %s %s(%s %s) \x7b"
          [b.builder, .name methods.optionalSetter,
            flavour.optionalOf (.extending e.type), .name p.name]],
      setOrClear methods (.template "    if (%s.isPresent()) \x7b" [.name p.name])
        (.template "      return %s(%s.get());"
          [.name methods.optionalSetter, .name p.name])]

/-- The setter for a nullable value. -/
def optionalNullableSetter (b : Blueprint) (p : Property) (methods : OptionalMethods)
    (e : Element) : Code :=
  joined
    [optionalDocumentation b p,
      ["   */",
        .template "  public %s %s(@%s %s %s) \x7b"
          [b.builder, .name methods.nullableSetter, Library.nullable, e.type,
            .name p.name]],
      setOrClear methods (.template "    if (%s != null) \x7b" [.name p.name])
        (.template "      return %s(%s);" [.name methods.optionalSetter, .name p.name])]

/-- The method that makes the property absent. -/
def optionalClear (b : Blueprint) (p : Property) (flavour : OptionalFlavour)
    (methods : OptionalMethods) : Code :=
  ["", "  /**",
    b.linkGetter p "   * Sets the value to be returned by \x7b@link %s#%s()\x7d",
    .template "   * to \x7b@link %1$s#%2$s() %1$s.%2$s()\x7d."
      [flavour.optionalClass, flavour.absentMethod],
    "   *",
    b.returnsBuilder,
    "   */",
    .template "  public %s %s() \x7b" [b.builder, .name methods.clearMethod],
    .template "    this.%s = null;" [.name p.name],
    b.returnBuilder,
    "  \x7d"]

/-- The statement that answers an optional of the stored value. -/
def returnOptional (template : String) (p : Property) (flavour : OptionalFlavour) : Statement :=
  .template template [flavour.optionalClass, flavour.nullableMethod, .name p.name]

/-- The getter. -/
def optionalGetter (b : Blueprint) (p : Property) (flavour : OptionalFlavour) (e : Element) :
    Code :=
  ["", "  /**",
    b.linkGetter p "   * Returns the value that will be returned by \x7b@link %s#%s()\x7d.",
    "   */",
    .template "  public %s get%s() \x7b" [flavour.optionalOf e.type, .name p.capitalized],
    returnOptional "    return %s.%s(%s);" p flavour,
    "  \x7d"]

/-- The accessors of an optional property. -/
def optional (b : Blueprint) (p : Property) (flavour : OptionalFlavour) (methods : OptionalMethods)
    (e : Element) : Code :=
  joined
    [optionalSetter b p methods e, optionalOptionalSetter b p flavour methods e,
      optionalNullableSetter b p methods e, optionalClear b p flavour methods,
      optionalGetter b p flavour e]

end ValueBuilder.Accessors
