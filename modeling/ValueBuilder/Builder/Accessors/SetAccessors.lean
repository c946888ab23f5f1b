import ValueBuilder.Builder.Accessors.Collection

/-!
# Accessors of set properties

Methods that add one element, several, or all of an iterable, and one that removes an element.
-/

namespace ValueBuilder.Accessors

open Java

/-- The method that adds one element. -/
def setAdd (b : Blueprint) (p : Property) (e : Element) : Code :=
  joined
    [["", "  /**",
        b.linkGetter p
          "   * Adds \x7b@code element\x7d to the set to be returned from \x7b@link %s#%s()\x7d.",
        .template "   * If the set already contains \x7b@code element\x7d, then \x7b@code add%s\x7d"
          [.name p.capitalized],
        "   * has no effect (only the previously added element is retained)."],
      addOne b p e]

/-- What the methods that add several elements have in common in their documentation. -/
def setAddDocumentation (b : Blueprint) (p : Property) : Code :=
  ["", "  /**",
    "   * Adds each element of \x7b@code elements\x7d to the set to be returned from",
    b.linkGetter p "   * \x7b@link %s#%s()\x7d, ignoring duplicate elements",
    "   * (only the first duplicate element is added).",
    "   *",
    b.returnsBuilder]

/-- The method that adds the elements of an array. -/
def setAddArray (b : Blueprint) (p : Property) (e : Element) : Code :=
  joined
    [setAddDocumentation b p,
      if e.isNullable then throwsIfContainsNull else [],
      addArrayHead b p e, addEach b p e]

/-- The method that adds the elements of an iterable. -/
def setAddAll (b : Blueprint) (p : Property) (e : Element) : Code :=
  joined [setAddDocumentation b p, addAllHead b p e, addEach b p e]

/-- The method that removes one element. -/
def setRemove (b : Blueprint) (p : Property) (e : Element) : Code :=
  joined
    [["", "  /**",
        b.linkGetter p
          "   * Removes \x7b@code element\x7d from the set to be returned from \x7b@link %s#%s()\x7d.",
        "   * Does nothing if \x7b@code element\x7d is not a member of the set.",
        "   *",
        b.returnsBuilder],
      throwsIfElementNull e,
      ["   */",
        .template "  public %s remove%s(%s element) \x7b"
          [b.builder, .name p.capitalized, e.parameter],
        if e.isNullable then
          .template "    this.%s.remove(%s.checkNotNull(element));"
            [.name p.name, Library.preconditions]
        else .template "    this.%s.remove(element);" [.name p.name],
        b.returnBuilder, "  \x7d"]]

/-- The accessors of a set property. -/
def set (b : Blueprint) (p : Property) (e : Element) : Code :=
  joined
    [setAdd b p e, setAddArray b p e, setAddAll b p e, setRemove b p e,
      clearAll b p "   * Clears the set to be returned from \x7b@link %s#%s()\x7d.",
      unmodifiableView b p "set"
        (.template "  public %s<%s> get%s() \x7b" [Library.set, e.type, .name p.capitalized])
        "    return %s.unmodifiableSet(%s);"]

end ValueBuilder.Accessors
