import ValueBuilder.Builder.Layout

/-!
# Accessors shared by collection properties

Lists, sets and maps are cleared and read in the same way, and lists and sets take several elements
at once by adding each.
-/

namespace ValueBuilder.Accessors

open Java

/-- Says that a method refuses `null` for its element. -/
def throwsIfElementNull (e : Element) : Code :=
  if e.isNullable then ["   * @throws NullPointerException if \x7b@code element\x7d is null"]
  else []

/-- Says that a method refuses `null` among several elements. -/
def throwsIfContainsNull : Code :=
  ["   * @throws NullPointerException if \x7b@code elements\x7d is null or contains a",
    "   *     null element"]

/-- The statement that adds an element, checked unless it cannot be `null`. -/
def addElement (p : Property) (e : Element) : Statement :=
  if e.isNullable then
    .template "    this.%s.add(%s.checkNotNull(element));" [.name p.name, Library.preconditions]
  else .template "    this.%s.add(element);" [.name p.name]

/-- The method that adds one element, behind the first lines of its documentation. -/
def addOne (b : Blueprint) (p : Property) (e : Element) : Code :=
  joined
    [["   *", b.returnsBuilder],
      throwsIfElementNull e,
      ["   */",
        .template "  public %s add%s(%s element) \x7b"
          [b.builder, .name p.capitalized, e.parameter],
        addElement p e, b.returnBuilder, "  \x7d"]]

/-- The head of the method that adds the elements of an array. -/
def addArrayHead (b : Blueprint) (p : Property) (e : Element) : Code :=
  ["   */",
    .template "  public %s add%s(%s... elements) \x7b"
      [b.builder, .name p.capitalized, e.parameter]]

/-- The head of the method that adds the elements of an iterable. -/
def addAllHead (b : Blueprint) (p : Property) (e : Element) : Code :=
  joined
    [throwsIfContainsNull,
      ["   */",
        .template "  public %s addAll%s(%s<? extends %s> elements) \x7b"
          [b.builder, .name p.capitalized, Library.iterable, e.type]]]

/-- A loop that adds each element, and the end of the method around it. -/
def addEach (b : Blueprint) (p : Property) (e : Element) : Code :=
  [.template "    for (%s element : elements) \x7b" [e.parameter],
    .template "      add%s(element);" [.name p.capitalized],
    "    \x7d", b.returnBuilder, "  \x7d"]

/-- The method that empties the collection; its first line links the getter. -/
def clearAll (b : Blueprint) (p : Property) (description : String) : Code :=
  ["", "  /**", b.linkGetter p description, "   *", b.returnsBuilder, "   */",
    .template "  public %s clear%s() \x7b" [b.builder, .name p.capitalized],
    .template "    this.%s.clear();" [.name p.name],
    b.returnBuilder, "  \x7d"]

/-- The getter, which answers a view that cannot be modified: its head, and the template of the
statement that answers. -/
def unmodifiableView (b : Blueprint) (p : Property) (noun : String) (head : Statement)
    (answer : String) : Code :=
  ["", "  /**",
    .verbatim ["   * Returns an unmodifiable view of the ", noun, " that will be returned by"],
    b.linkGetter p "   * \x7b@link %s#%s()\x7d.",
    "   * Changes to this builder will be reflected in the view.",
    "   */",
    head,
    .template answer [Library.collections, .name p.name],
    "  \x7d"]

end ValueBuilder.Accessors
