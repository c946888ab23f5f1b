import ValueBuilder.Builder.Accessors.Collection

/-!
# Accessors of list properties

Methods that append one element, several, or all of an iterable.  The list reserves room first when
it knows how many elements come.
-/

namespace ValueBuilder.Accessors

open Java

/-- The method that appends one element. -/
def listAdd (b : Blueprint) (p : Property) (e : Element) : Code :=
  joined
    [["", "  /**",
        b.linkGetter p
          "   * Adds \x7b@code element\x7d to the list to be returned from \x7b@link %s#%s()\x7d."],
      addOne b p e]

/-- What the methods that append several elements have in common in their documentation. -/
def listAddDocumentation (b : Blueprint) (p : Property) : Code :=
  ["", "  /**",
    "   * Adds each element of \x7b@code elements\x7d to the list to be returned from",
    b.linkGetter p "   * \x7b@link %s#%s()\x7d.",
    "   *",
    b.returnsBuilder]

/-- The method that appends the elements of an array. -/
def listAddArray (b : Blueprint) (p : Property) (e : Element) : Code :=
  joined
    [listAddDocumentation b p,
      if e.isNullable then throwsIfContainsNull else [],
      addArrayHead b p e,
      [.template "    %1$s.ensureCapacity(%1$s.size() + elements.length);" [.name p.name]],
      addEach b p e]

/-- The method that appends the elements of an iterable. -/
def listAddAll (b : Blueprint) (p : Property) (e : Element) : Code :=
  joined
    [listAddDocumentation b p,
      addAllHead b p e,
      [.template "    if (elements instanceof %s) \x7b" [Library.collection],
        .template "      %1$s.ensureCapacity(%1$s.size() + ((%2$s<?>) elements).size());"
          [.name p.name, Library.collection],
        "    \x7d"],
      addEach b p e]

/-- The accessors of a list property. -/
def list (b : Blueprint) (p : Property) (e : Element) : Code :=
  joined
    [listAdd b p e, listAddArray b p e, listAddAll b p e,
      clearAll b p "   * Clears the list to be returned from \x7b@link %s#%s()\x7d.",
      unmodifiableView b p "list"
        (.template "  public %s<%s> get%s() \x7b" [Library.list, e.type, .name p.capitalized])
        "    return %s.unmodifiableList(%s);"]

end ValueBuilder.Accessors
