import ValueBuilder.Builder.Accessors.Collection

/-!
# Accessors of map properties

Methods that put one entry or all entries of a map, and one that removes a key.
-/

namespace ValueBuilder.Accessors

open Java

/-- Says that a method refuses `null` as a key. -/
def throwsIfKeyNull : Statement :=
  "   * @throws NullPointerException if \x7b@code key\x7d is null"

/-- Says when the method that puts an entry refuses it. -/
def throwsIfEntryNull (key value : Element) : Code :=
  match key.isNullable, value.isNullable with
  | true, true =>
    [.verbatim
      ["   * @throws NullPointerException if either ",
        "\x7b@code key\x7d or \x7b@code value\x7d are null"]]
  | true, false => [throwsIfKeyNull]
  | false, true => ["   * @throws NullPointerException if \x7b@code value\x7d is null"]
  | false, false => []

/-- A statement that refuses `null` for an argument, unless the argument cannot be `null`. -/
def checkNotNull (e : Element) (template : String) : Code :=
  if e.isNullable then [.template template [Library.preconditions]] else []

/-- The statement that refuses `null` as a key. -/
def checkKey (key : Element) : Code :=
  checkNotNull key "    %s.checkNotNull(key);"

/-- The method that puts one entry. -/
def mapPut (b : Blueprint) (p : Property) (key value : Element) : Code :=
  joined
    [["", "  /**",
        "   * Associates \x7b@code key\x7d with \x7b@code value\x7d in the map to be returned from",
        b.linkGetter p "   * \x7b@link %s#%s()\x7d.",
        "   * If the map previously contained a mapping for the key,",
        "   * the old value is replaced by the specified value.",
        "   *",
        b.returnsBuilder],
      throwsIfEntryNull key value,
      ["   */",
        .template "  public %s put%s(%s key, %s value) \x7b"
          [b.builder, .name p.capitalized, key.parameter, value.parameter]],
      checkKey key, checkNotNull value "    %s.checkNotNull(value);",
      [.template "    this.%s.put(key, value);" [.name p.name], b.returnBuilder, "  \x7d"]]

/-- The method that puts all entries of a map. -/
def mapPutAll (b : Blueprint) (p : Property) (key value : Element) : Code :=
  let keyBound := JavaType.extending key.type
  let valueBound := JavaType.extending value.type
  ["", "  /**",
    "   * Associates all of \x7b@code map\x7d's keys and values in the map to be returned from",
    b.linkGetter p "   * \x7b@link %s#%s()\x7d.",
    "   *",
    b.returnsBuilder,
    "   * @throws NullPointerException if \x7b@code map\x7d is null or contains a",
    "   *     null key or value",
    "   */",
    .template "  public %s putAll%s(%s<%s, %s> map) \x7b"
      [b.builder, .name p.capitalized, Library.map, keyBound, valueBound],
    .template "    for (%s<%s, %s> entry : map.entrySet()) \x7b"
      [Library.mapEntry, keyBound, valueBound],
    .template "      put%s(entry.getKey(), entry.getValue());" [.name p.capitalized],
    "    \x7d", b.returnBuilder, "  \x7d"]

/-- The method that removes a key. -/
def mapRemove (b : Blueprint) (p : Property) (key : Element) : Code :=
  joined
    [["", "  /**",
        "   * Removes the mapping for \x7b@code key\x7d from the map to be returned from",
        b.linkGetter p "   * \x7b@link %s#%s()\x7d, if one is present.",
        "   *",
        b.returnsBuilder],
      if key.isNullable then [throwsIfKeyNull] else [],
      ["   */",
        .template "  public %s remove%s(%s key) \x7b"
          [b.builder, .name p.capitalized, key.parameter]],
      checkKey key,
      [.template "    this.%s.remove(key);" [.name p.name], b.returnBuilder, "  \x7d"]]

/-- The accessors of a map property. -/
def map (b : Blueprint) (p : Property) (key value : Element) : Code :=
  joined
    [mapPut b p key value, mapPutAll b p key value, mapRemove b p key,
      clearAll b p
        "   * Removes all of the mappings from the map to be returned from \x7b@link %s#%s()\x7d.",
      unmodifiableView b p "map"
        (.template "  public %s<%s, %s> get%s() \x7b"
          [Library.map, key.type, value.type, .name p.capitalized])
        "    return %s.unmodifiableMap(%s);"]

end ValueBuilder.Accessors
