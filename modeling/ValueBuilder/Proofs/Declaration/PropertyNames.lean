import ValueBuilder.Proofs.Declaration.Conversion
import ValueBuilder.Proofs.Java.ClassNames

/-!
# Names of derived properties

A property takes its name from a getter, which is an identifier.  What stands behind the prefix of a
getter can begin with a digit, and then the name is no identifier.

* `opensStem_cases` says how the first character of a stem becomes the first one of a name.
* `TypeDeclaration.name_of_convert` is the name of a property of a converted declaration: either its
  getter, or the stem of its getter if all getters have one.
* `derived_names_identifiers_iff` tells the identifiers among these names.  `derived_name_of_digit`
  is a getter whose property has a name that is none.
-/

namespace ValueBuilder

open Java

/-! ## Stems -/

/-- The characters that open a stem are ASCII characters, so what all of them have in common can be
computed. -/
@[elab_as_elim]
theorem of_opensStem {P : Char → Prop} {c : Char} (h : opensStem c = true)
    (hascii : ∀ code < 128, opensStem (Char.ofNat code) = true → P (Char.ofNat code)) : P c := by
  have hcode : c.toNat < 128 := by
    have hval : c.val.toNat = c.toNat := rfl
    have hupper : c.isUpper = decide (65 ≤ c.val ∧ c.val ≤ 90) := rfl
    simp only [opensStem, hupper, Char.isDigit, Bool.or_eq_true, Bool.and_eq_true,
      decide_eq_true_eq, beq_iff_eq, ge_iff_le, UInt32.le_iff_toNat_le, hval] at h
    rcases h with ((⟨-, h⟩ | ⟨-, h⟩) | rfl) | rfl
    · exact Nat.lt_of_le_of_lt h (by decide)
    · exact Nat.lt_of_le_of_lt h (by decide)
    · decide
    · decide
  have hchar := hascii c.toNat hcode
  rw [Char.ofNat_toNat] at hchar
  exact hchar h

/-- A character that opens a stem stays one character in small letters, and only a digit cannot open
an identifier. -/
theorem opensStem_cases {c : Char} (h : opensStem c = true) :
    Unicode.lower c = [c.toLower] ∧ isIdentifierPart c = true ∧
      isIdentifierPart c.toLower = true ∧ isIdentifierStart c = !c.isDigit ∧
        isIdentifierStart c.toLower = !c.isDigit := by
  refine of_opensStem h ?_
  decide +kernel

/-- The name that a stem becomes differs from it in its first character at most. -/
theorem toList_decapitalize {c : Char} {cs : List Char} (h : opensStem c = true) :
    (decapitalize (String.ofList (c :: cs))).toList = c :: cs ∨
      (decapitalize (String.ofList (c :: cs))).toList = c.toLower :: cs := by
  rw [decapitalize, String.toList_ofList]
  dsimp only
  split
  · exact .inl String.toList_ofList
  · right
    rw [String.toList_ofList, (opensStem_cases h).1]
    rfl

/-- What stands behind the prefix of a getter is the end of the getter, and its first character can
open a stem. -/
theorem exists_of_getterStem? {getter stem : String} {type : JavaType}
    (h : getterStem? getter type = some stem) :
    ∃ c cs opening, opensStem c = true ∧ stem = String.ofList (c :: cs) ∧
      getter.toList = opening ++ c :: cs := by
  have hstem {cs : List Char} (hcs : isStem cs = true) :
      ∃ c rest, opensStem c = true ∧ cs = c :: rest := by
    cases cs with
    | nil => cases hcs
    | cons c rest => exact ⟨c, rest, (Bool.and_eq_true_iff.1 hcs).1, rfl⟩
  rw [getterStem?] at h
  split at h
  · next rest hget =>
    split at h
    · next hrest =>
      obtain ⟨c, cs, hc, rfl⟩ := hstem hrest
      exact ⟨c, cs, ['g', 'e', 't'], hc, (Option.some.inj h).symm, hget⟩
    · cases h
  · next rest his =>
    split at h
    · next hrest =>
      obtain ⟨c, cs, hc, rfl⟩ := hstem (Bool.and_eq_true_iff.1 hrest).1
      exact ⟨c, cs, ['i', 's'], hc, (Option.some.inj h).symm, his⟩
    · cases h
  · cases h

/-! ## Names of converted declarations -/

namespace Property

/-- What stands behind the prefix of the property's getter, if it has a usable one. -/
def stem? (p : Property) : Option String :=
  getterStem? p.getter p.type

/-- Whether the stem of the property's getter begins with a digit. -/
def stemOpensWithDigit (p : Property) : Bool :=
  p.stem?.any fun stem => stem.toList.head?.any Char.isDigit

end Property

/-- Whether all getters have a stem, so that the properties are named after the stems. -/
def Blueprint.stripsPrefixes (b : Blueprint) : Bool :=
  b.properties.all (·.stem?.isSome)

/-- The name of a getter's property, given whether all getters have a stem. -/
def nameOfGetter (strips : Bool) (getter : String) (type : JavaType) : String :=
  if strips then ((getterStem? getter type).map decapitalize).getD getter else getter

theorem propertyNames_eq_map (getters : List (String × JavaType)) :
    propertyNames getters =
      getters.map fun getter =>
        nameOfGetter (getters.all fun getter => (getterStem? getter.1 getter.2).isSome)
          getter.1 getter.2 := by
  simp only [propertyNames, nameOfGetter]
  split <;> rfl

namespace TypeDeclaration

theorem propertiesOf_eq_map (getters : List (PropertyDeclaration × JavaType)) :
    propertiesOf getters =
      getters.map fun (declaration, type) =>
        Property.ofGetter
          (nameOfGetter
            (getters.all fun (declaration, type) => (getterStem? declaration.getter type).isSome)
            declaration.getter type)
          declaration.getter type declaration.hasDefault := by
  rw [propertiesOf, propertyNames_eq_map, List.all_map, List.map_map, List.zipWith_map_right,
    List.zipWith_self]
  rfl

variable {declaration : TypeDeclaration} {conversion : Conversion}

/-- A property of a converted declaration has an identifier as its getter, and its name follows from
the getter. -/
theorem name_of_convert (h : declaration.convert = .ok conversion) {p : Property}
    (hp : p ∈ conversion.blueprint.properties) :
    isIdentifier p.getter = true ∧
      p.name = nameOfGetter conversion.blueprint.stripsPrefixes p.getter p.type := by
  obtain ⟨target, scope, types, -, htypes, hcheck, -⟩ := convert_eq_ok_iff.1 h
  have hproperties : conversion.blueprint.properties =
      propertiesOf (declaration.properties.zip types) :=
    (Draft.isPlanOf_of_check hcheck).properties
  have hstrips : conversion.blueprint.stripsPrefixes =
      (declaration.properties.zip types).all fun (property, type) =>
        (getterStem? property.getter type).isSome := by
    rw [Blueprint.stripsPrefixes, hproperties, propertiesOf_eq_map, List.all_map]
    rfl
  rw [hproperties, propertiesOf_eq_map] at hp
  obtain ⟨⟨property, type⟩, hmem, rfl⟩ := List.mem_map.1 hp
  have hread := (List.forall₂_iff_zip.1 htypes).2 hmem
  rw [hstrips]
  exact ⟨hread.getter, rfl⟩

end TypeDeclaration

/-- A name that is derived from the stem of an identifier has the characters of an identifier, and
it is one unless the stem begins with a digit. -/
theorem exists_toList_decapitalize {getter stem : String} {type : JavaType}
    (hgetter : isIdentifier getter = true) (h : getterStem? getter type = some stem) :
    ∃ first rest, (decapitalize stem).toList = first :: rest ∧
      (first :: rest).all isIdentifierPart = true ∧
        isIdentifierStart first = !stem.toList.head?.any Char.isDigit := by
  obtain ⟨c, cs, opening, hc, rfl, hchars⟩ := exists_of_getterStem? h
  have hparts : (opening ++ c :: cs).all isIdentifierPart = true := by
    rw [← hchars]
    exact all_isIdentifierPart_of_spellsIdentifier hgetter
  rw [List.all_append, List.all_cons, Bool.and_eq_true, Bool.and_eq_true] at hparts
  obtain ⟨-, -, hcs⟩ := hparts
  obtain ⟨-, hpart, hpartLower, hstart, hstartLower⟩ := opensStem_cases hc
  rw [String.toList_ofList]
  rcases @toList_decapitalize c cs hc with hname | hname
  · exact ⟨c, cs, hname, by rw [List.all_cons, hpart, hcs]; rfl, hstart⟩
  · exact ⟨c.toLower, cs, hname, by rw [List.all_cons, hpartLower, hcs]; rfl, hstartLower⟩

theorem ne_empty_of_toList_eq_cons {s : String} {c : Char} {cs : List Char}
    (h : s.toList = c :: cs) : s ≠ "" := by
  rintro rfl
  cases h

/-- The name of a property is not empty and has the characters of an identifier.  It is an
identifier unless the properties are named after the stems of their getters and the stem of its own
begins with a digit. -/
theorem derived_names_identifiers_iff (declaration : TypeDeclaration) (conversion : Conversion)
    (h : declaration.convert = .ok conversion) :
    ∀ p ∈ conversion.blueprint.properties,
      p.name ≠ "" ∧ p.name.toList.all isIdentifierPart = true ∧
        (isIdentifier p.name = true ↔
          ¬(conversion.blueprint.stripsPrefixes = true ∧ p.stemOpensWithDigit = true)) := by
  intro p hp
  obtain ⟨hgetter, hname⟩ := TypeDeclaration.name_of_convert h hp
  cases hstrips : conversion.blueprint.stripsPrefixes with
  | false =>
    have hself : p.name = p.getter := by rw [hname, hstrips]; rfl
    have hparts : p.getter.toList.all isIdentifierPart = true :=
      all_isIdentifierPart_of_spellsIdentifier hgetter
    rw [hself]
    exact ⟨ne_empty_of_isIdentifier hgetter, hparts, by simp [hgetter]⟩
  | true =>
    obtain ⟨stem, hstem⟩ := Option.isSome_iff_exists.1 (List.all_eq_true.1 hstrips p hp)
    have hderived : p.name = decapitalize stem := by
      rw [Property.stem?] at hstem
      rw [hname, hstrips, nameOfGetter, hstem]
      rfl
    obtain ⟨first, rest, hchars, hparts, hstart⟩ := exists_toList_decapitalize hgetter hstem
    obtain ⟨-, hrest⟩ := Bool.and_eq_true_iff.1 (List.all_cons ▸ hparts)
    rw [hderived]
    refine ⟨ne_empty_of_toList_eq_cons hchars, hchars ▸ hparts, ?_⟩
    simp [isIdentifier, hchars, spellsIdentifier, hstart, hrest, Property.stemOpensWithDigit, hstem]

/-- Getters with an abbreviation, an underscore and the prefix of conditions. -/
theorem derived_names_identifiers_iff_mixed :
    let declaration : TypeDeclaration :=
      { name := "com.example.Person"
        properties :=
          [{ getter := "getURL", type := "String" }, { getter := "get_2nd", type := "int" },
            { getter := "isActive", type := "boolean" }] }
    ∃ conversion, declaration.convert = .ok conversion ∧
      conversion.blueprint.properties.map (·.name) = ["URL", "_2nd", "active"] ∧
        conversion.blueprint.stripsPrefixes = true ∧
          ∀ p ∈ conversion.blueprint.properties, isIdentifier p.name = true := by
  intro declaration
  have hconverted : (declaration.convert.toOption.map fun conversion =>
      (conversion.blueprint.properties.map (·.name), conversion.blueprint.stripsPrefixes,
        conversion.blueprint.properties.any (·.stemOpensWithDigit))) =
      some (["URL", "_2nd", "active"], true, false) := by
    decide +kernel
  obtain ⟨conversion, hconvert, hresult⟩ := map_toOption_eq_some_iff.1 hconverted
  obtain ⟨hnames, hrest⟩ := Prod.mk.inj hresult
  obtain ⟨hstrips, hdigits⟩ := Prod.mk.inj hrest
  refine ⟨conversion, hconvert, hnames, hstrips, fun p hp => ?_⟩
  obtain ⟨-, -, hname⟩ := derived_names_identifiers_iff declaration conversion hconvert p hp
  exact hname.2 fun ⟨_, hdigit⟩ => List.any_eq_false.1 hdigits p hp hdigit

/-- A getter with a digit behind its prefix.  The getter is an identifier, and the name of its
property is none. -/
theorem derived_name_of_digit :
    let declaration : TypeDeclaration :=
      { name := "com.example.Person", properties := [{ getter := "get1st", type := "String" }] }
    ∃ conversion, declaration.convert = .ok conversion ∧
      ∃ p ∈ conversion.blueprint.properties,
        p.getter = "get1st" ∧ isIdentifier p.getter = true ∧
          p.name = "1st" ∧ isIdentifier p.name = false := by
  intro declaration
  have hconverted : (declaration.convert.toOption.map fun conversion =>
      conversion.blueprint.properties.map fun p => (p.getter, p.name)) =
      some [("get1st", "1st")] := by
    decide +kernel
  obtain ⟨conversion, hconvert, hproperties⟩ := map_toOption_eq_some_iff.1 hconverted
  obtain ⟨p, hp, hpair⟩ : ∃ p ∈ conversion.blueprint.properties, (p.getter, p.name) =
      ("get1st", "1st") := by
    rw [← List.mem_map, hproperties]
    exact List.mem_singleton.2 rfl
  obtain ⟨hgetter, hname⟩ := Prod.mk.inj hpair
  refine ⟨conversion, hconvert, p, hp, hgetter, ?_, hname, ?_⟩
  · rw [hgetter]
    decide +kernel
  · rw [hname]
    decide +kernel

end ValueBuilder
