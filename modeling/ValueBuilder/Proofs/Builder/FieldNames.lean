import ValueBuilder.Proofs.Builder.Emission
import ValueBuilder.Proofs.Declaration.PropertyNames
import ValueBuilder.Proofs.Source.Tokens
import ValueBuilder.Proofs.Text.Silence

/-!
# Names of fields

A generated class has a field for each property, named after it, and fields of its own.  The names
of its own fields are fixed, so a property can take one of them.

* `Code.fieldNames` reads the fields that code declares as members of a class.
* `Section.fieldNames_code` finds those of each section, and `Blueprint.fieldNames_classCode` those
  of the class.  `Blueprint.fieldNames_partialType` finds the fields of values that may lack
  properties.
* `TypeDeclaration.name_eq_iff` tells from a getter whether its property has such a name.
* `declared_fields_distinct_iff` puts them together.
-/

namespace ValueBuilder

open Java

/-! ## Declarations of fields -/

namespace Token

/-- The word before the first `=` or `;`, unless a parenthesis or a brace stands before it.  `last`
is the last word so far. -/
def nameBeforeValue? (last : Option (List Char)) : List Token → Option (List Char)
  | [] | symbol '(' :: _ | symbol '\x7b' :: _ => none
  | symbol '=' :: _ | symbol ';' :: _ => last
  | word cs _ :: tokens => nameBeforeValue? (some cs) tokens
  | _ :: tokens => nameBeforeValue? last tokens

end Token

/-- The field that a line declares as a member of a class, whose members are indented by a number of
blanks.  Other members have a parenthesis or a brace, and what stands in them is indented
further. -/
def Statement.fieldName? (depth : Nat) (s : Statement) : Option (List Char) :=
  if Token.indentation s.tokens = depth then
    Token.nameBeforeValue? none (Token.significant s.tokens)
  else none

/-- The names of the fields that code declares as members at a depth. -/
def Code.fieldNames (depth : Nat) (code : Code) : List (List Char) :=
  code.filterMap (Statement.fieldName? depth)

/-- Judges a line whose own text is known character by character. -/
theorem Statement.fieldName?_of_opening {depth : Nat} {s : Statement} {cs : List Char}
    {name : Option (List Char)} (hchars : s.opening = String.ofList cs)
    (hname : (if Token.indentation (s.tokensOver cs) = depth then
      Token.nameBeforeValue? none (Token.significant (s.tokensOver cs)) else none) = name) :
    s.fieldName? depth = name := by
  rw [fieldName?, tokens_of_opening hchars, hname]

/-- Judges a line that declares a member neither of the class nor of a class nested in it. -/
theorem Statement.fieldName?_eq_none {depth : Nat} (hdepth : depth = 2 ∨ depth = 4) {s : Statement}
    {cs : List Char} (hchars : s.opening = String.ofList cs)
    (htwo : (if Token.indentation (s.tokensOver cs) = 2 then
      Token.nameBeforeValue? none (Token.significant (s.tokensOver cs)) else none) = none)
    (hfour : (if Token.indentation (s.tokensOver cs) = 4 then
      Token.nameBeforeValue? none (Token.significant (s.tokensOver cs)) else none) = none) :
    s.fieldName? depth = none := by
  rcases hdepth with rfl | rfl
  · exact fieldName?_of_opening hchars htwo
  · exact fieldName?_of_opening hchars hfour

namespace Code

variable {depth : Nat} {s t : Statement} {code first second : Code}

@[simp]
theorem fieldNames_nil : Code.fieldNames depth [] = [] :=
  rfl

@[simp]
theorem fieldNames_cons_none (h : s.fieldName? depth = none) :
    Code.fieldNames depth (s :: code) = code.fieldNames depth :=
  List.filterMap_cons_none h

@[simp]
theorem fieldNames_cons_some {name : List Char} (h : s.fieldName? depth = some name) :
    Code.fieldNames depth (s :: code) = name :: code.fieldNames depth :=
  List.filterMap_cons_some h

@[simp]
theorem fieldNames_cons_ite {condition : Prop} [Decidable condition] :
    Code.fieldNames depth ((if condition then s else t) :: code) =
      if condition then Code.fieldNames depth (s :: code)
      else Code.fieldNames depth (t :: code) := by
  split <;> rfl

@[simp]
theorem fieldNames_ite {condition : Prop} [Decidable condition] :
    Code.fieldNames depth (if condition then first else second) =
      if condition then first.fieldNames depth else second.fieldNames depth :=
  apply_ite _ _ _ _

@[simp]
theorem fieldNames_joined_nil : Code.fieldNames depth (joined []) = [] :=
  rfl

@[simp]
theorem fieldNames_joined_cons (code : Code) (parts : List Code) :
    Code.fieldNames depth (joined (code :: parts)) =
      code.fieldNames depth ++ Code.fieldNames depth (joined parts) :=
  List.filterMap_append

@[simp]
theorem fieldNames_flatMap {α : Type} (xs : List α) (f : α → Code) :
    Code.fieldNames depth (xs.flatMap f) = xs.flatMap fun x => (f x).fieldNames depth :=
  List.filterMap_flatMap

end Code

/-! ## Accessors -/

namespace Accessors

variable (b : Blueprint) (p : Property)

theorem fieldNames_plain (setter : String) : (plain b p setter).fieldNames 2 = [] := by
  simp (disch := exact Statement.fieldName?_of_opening (id rfl) (id rfl)) [plain, plainSetter,
    plainGetter, storeArgument]

theorem fieldNames_optional (flavour : OptionalFlavour) (methods : OptionalMethods) (e : Element) :
    (optional b p flavour methods e).fieldNames 2 = [] := by
  simp (disch := exact Statement.fieldName?_of_opening (id rfl) (id rfl)) [optional, optionalSetter,
    optionalOptionalSetter, optionalNullableSetter, optionalClear, optionalGetter,
    optionalDocumentation, setOrClear, storeArgument]

theorem fieldNames_list (e : Element) : (list b p e).fieldNames 2 = [] := by
  simp (disch := exact Statement.fieldName?_of_opening (id rfl) (id rfl)) [list, listAdd,
    listAddArray, listAddAll, listAddDocumentation, addOne, addElement, addArrayHead, addAllHead,
    addEach, clearAll, unmodifiableView, throwsIfElementNull, throwsIfContainsNull]

theorem fieldNames_set (e : Element) : (set b p e).fieldNames 2 = [] := by
  simp (disch := exact Statement.fieldName?_of_opening (id rfl) (id rfl)) [set, setAdd, setAddArray,
    setAddAll, setRemove, setAddDocumentation, addOne, addElement, addArrayHead, addAllHead,
    addEach, clearAll, unmodifiableView, throwsIfElementNull, throwsIfContainsNull]

theorem fieldNames_map (key value : Element) : (map b p key value).fieldNames 2 = [] := by
  have hthrows : (throwsIfEntryNull key value).fieldNames 2 = [] := by
    rw [throwsIfEntryNull]
    split <;>
      simp (disch := exact Statement.fieldName?_of_opening (id rfl) (id rfl)) [throwsIfKeyNull]
  simp (disch := exact Statement.fieldName?_of_opening (id rfl) (id rfl)) [map, mapPut, mapPutAll,
    mapRemove, hthrows, throwsIfKeyNull, checkKey, checkNotNull, clearAll, unmodifiableView]

end Accessors

/-! ## Fields of one property -/

namespace Property

variable (p : Property)

theorem fieldNames_accessors (b : Blueprint) : (p.accessors b).fieldNames 2 = [] := by
  rw [accessors]
  cases p.strategy with
  | plain setter _ => exact Accessors.fieldNames_plain b p setter
  | optional flavour methods e => exact Accessors.fieldNames_optional b p flavour methods e
  | list e => exact Accessors.fieldNames_list b p e
  | set e => exact Accessors.fieldNames_set b p e
  | map key value => exact Accessors.fieldNames_map b p key value

theorem fieldNames_builderField (level : SourceLevel) :
    (p.builderField level).fieldNames 2 = [p.name.toList] := by
  rw [builderField]
  cases p.strategy <;> cases level <;>
    simp (disch := exact Statement.fieldName?_of_opening (id rfl) (id rfl))
      [elementsField, entriesField, SourceLevel.infersTypeArguments]

theorem fieldNames_valueField : p.valueField.fieldNames 4 = [p.name.toList] := by
  rw [valueField]
  cases p.strategy <;> simp (disch := exact Statement.fieldName?_of_opening (id rfl) (id rfl))

theorem fieldNames_valueField_two : p.valueField.fieldNames 2 = [] := by
  rw [valueField]
  cases p.strategy <;> simp (disch := exact Statement.fieldName?_of_opening (id rfl) (id rfl))

end Property

namespace Blueprint

variable (b : Blueprint)

/-- The field of a generated class that joins texts. -/
def joinerField : String := "COMMA_JOINER"

/-- The field with the required properties that are still unset, if there are any. -/
def trackingFields (b : Blueprint) : List String :=
  if b.hasRequired then [unsetField] else []

/-! ## Members of the class -/

theorem fieldNames_header (generator : String) :
    (b.header generator).fieldNames 2 = [joinerField.toList] := by
  rw [joinerField]
  simp (disch := exact Statement.fieldName?_of_opening (id rfl) (id rfl)) [header]

theorem fieldNames_propertyEnumClass : b.propertyEnumClass.fieldNames 2 = [] := by
  have hconstants (properties : List Property) :
      Code.fieldNames 2 (properties.map fun p => .template "    %s(\"%s\"),"
        [Word.constant p.constant, .name p.name]) = [] := by
    induction properties with
    | nil => rfl
    | cons p properties ih =>
      simp (disch := exact Statement.fieldName?_of_opening (id rfl) (id rfl)) [ih]
  simp (disch := exact Statement.fieldName?_of_opening (id rfl) (id rfl))
    [propertyEnumClass, hconstants]

theorem fieldNames_fields (level : SourceLevel) :
    (b.fields level).fieldNames 2 =
      b.properties.map (·.name.toList) ++ b.trackingFields.map String.toList := by
  rw [trackingFields]
  cases hrequired : b.hasRequired <;>
    simp (disch := exact Statement.fieldName?_of_opening (id rfl) (id rfl)) only [fields, hrequired,
      Bool.false_eq_true, if_true, if_false, Code.fieldNames_joined_cons,
      Code.fieldNames_joined_nil, Code.fieldNames_flatMap, Property.fieldNames_builderField,
      Code.fieldNames_cons_none, Code.fieldNames_cons_some, Code.fieldNames_nil,
      ← List.map_eq_flatMap, List.nil_append] <;>
    rfl

theorem fieldNames_accessors : b.accessors.fieldNames 2 = [] := by
  simp [accessors, Property.fieldNames_accessors]

theorem fieldNames_build : b.build.fieldNames 2 = [] := by
  simp (disch := exact Statement.fieldName?_of_opening (id rfl) (id rfl)) [build]

theorem fieldNames_buildPartial : b.buildPartial.fieldNames 2 = [] := by
  simp (disch := exact Statement.fieldName?_of_opening (id rfl) (id rfl)) [buildPartial]

theorem fieldNames_mergeFromValue : b.mergeFromValue.fieldNames 2 = [] := by
  have hmerge (p : Property) : (p.mergeValue "value").fieldNames 2 = [] := by
    rw [Property.mergeValue]
    cases p.strategy <;> simp (disch := exact Statement.fieldName?_of_opening (id rfl) (id rfl))
  simp (disch := exact Statement.fieldName?_of_opening (id rfl) (id rfl)) [mergeFromValue, hmerge]

theorem fieldNames_mergeFromBuilder : b.mergeFromBuilder.fieldNames 2 = [] := by
  have hmerge (p : Property) : (p.mergeBuilder b b.template).fieldNames 2 = [] := by
    rw [Property.mergeBuilder]
    cases p.strategy <;> simp (disch := exact Statement.fieldName?_of_opening (id rfl) (id rfl))
  simp (disch := exact Statement.fieldName?_of_opening (id rfl) (id rfl)) [mergeFromBuilder, hmerge]

theorem fieldNames_clear : b.clear.fieldNames 2 = [] := by
  have hclear (p : Property) (template : String) : (p.clear template).fieldNames 2 = [] := by
    rw [Property.clear]
    cases p.strategy <;> simp (disch := exact Statement.fieldName?_of_opening (id rfl) (id rfl))
  have halone (p : Property) : p.clearAlone.fieldNames 2 = [] := by
    rw [Property.clearAlone]
    cases p.strategy <;> simp (disch := exact Statement.fieldName?_of_opening (id rfl) (id rfl))
  rw [clear]
  cases b.factory <;>
    simp (disch := exact Statement.fieldName?_of_opening (id rfl) (id rfl))
      [clearToTemplate, clearToNothing, hclear, halone]

/-! ## Members of nested classes -/

section Nested

variable {depth : Nat} (hdepth : depth = 2 ∨ depth = 4) (c : ClassName)

include hdepth

theorem fieldNames_nestedConstructor {template : String}
    (htemplate : template = "    private %s(%s builder) \x7b" ∨
      template = "    %s(%s builder) \x7b") :
    (b.nestedConstructor template c).fieldNames depth = [] := by
  have hassign (p : Property) :
      (p.assignField (Word.field "this" p.name) "builder").fieldNames depth = [] := by
    rw [Property.assignField]
    cases p.strategy <;>
      simp (disch := exact Statement.fieldName?_eq_none hdepth (id rfl) (id rfl) (id rfl))
  rcases htemplate with rfl | rfl <;>
    simp (disch := exact Statement.fieldName?_eq_none hdepth (id rfl) (id rfl) (id rfl))
      [nestedConstructor, hassign]

theorem fieldNames_getter (p : Property) {body : Code} (hbody : body.fieldNames depth = []) :
    (getter p body).fieldNames depth = [] := by
  simp (disch := exact Statement.fieldName?_eq_none hdepth (id rfl) (id rfl) (id rfl))
    [getter, overriding, hbody]

theorem fieldNames_getterBody (p : Property) : p.getterBody.fieldNames depth = [] := by
  rw [Property.getterBody]
  cases p.strategy <;>
    simp (disch := exact Statement.fieldName?_eq_none hdepth (id rfl) (id rfl) (id rfl))

theorem fieldNames_equals (nullSafe : Property → Bool) {result : Statement}
    (hresult : result.fieldName? depth = none) :
    (b.equals c nullSafe result).fieldNames depth = [] := by
  have hcompare (p : Property) (nullSafe : Bool) (other : String) :
      (compareField p nullSafe other).fieldNames depth = [] := by
    have hdiffers : (differs p nullSafe other).fieldNames depth = [] := by
      rw [differs]
      split <;> simp (disch := exact Statement.fieldName?_eq_none hdepth (id rfl) (id rfl) (id rfl))
    simp (disch := exact Statement.fieldName?_eq_none hdepth (id rfl) (id rfl) (id rfl))
      [compareField, hdiffers]
  have hend : Code.fieldNames depth [result, "    \x7d"] = [] := by
    rw [Code.fieldNames_cons_none hresult]
    simp (disch := exact Statement.fieldName?_eq_none hdepth (id rfl) (id rfl) (id rfl))
  simp (disch := exact Statement.fieldName?_eq_none hdepth (id rfl) (id rfl) (id rfl))
    [equals, equalsHead, overriding, hcompare, hend]

theorem fieldNames_argumentList (items : List (List Word)) :
    (argumentList items).fieldNames depth = [] := by
  fun_induction argumentList items <;>
    simp (disch := exact Statement.fieldName?_eq_none hdepth (id rfl) (id rfl) (id rfl)) [*]

theorem fieldNames_concatenated (properties : List Property) :
    (concatenated properties).fieldNames depth = [] := by
  fun_induction concatenated properties <;>
    simp (disch := exact Statement.fieldName?_eq_none hdepth (id rfl) (id rfl) (id rfl)) [*]

theorem fieldNames_joinedText (opening : List Word) (items : List (List Word)) :
    (joinedText opening items).fieldNames depth = [] := by
  have hitems := fieldNames_argumentList hdepth items
  simp (disch := exact Statement.fieldName?_eq_none hdepth (id rfl) (id rfl) (id rfl))
    [joinedText, hitems]

theorem fieldNames_toStringMethod {body : Code} (hbody : body.fieldNames depth = []) :
    (toStringMethod body).fieldNames depth = [] := by
  simp (disch := exact Statement.fieldName?_eq_none hdepth (id rfl) (id rfl) (id rfl))
    [toStringMethod, overriding, hbody]

theorem fieldNames_nestedHead {template : String}
    (htemplate : template = "  static final class %s %s %s \x7b" ∨
      template = "  private static final class %s %s %s \x7b") :
    Code.fieldNames depth ["", b.nestedHead template c] = [] := by
  have hhead : (b.nestedHead template c).fieldName? depth = none := by
    rw [nestedHead, inheritance]
    rcases htemplate with rfl | rfl <;> cases b.isInterface <;>
      exact Statement.fieldName?_eq_none hdepth rfl rfl rfl
  rw [Code.fieldNames_cons_none, Code.fieldNames_cons_none hhead, Code.fieldNames_nil]
  exact Statement.fieldName?_eq_none hdepth rfl rfl rfl

theorem fieldNames_partialGetter (p : Property) : (b.partialGetter p).fieldNames depth = [] := by
  refine fieldNames_getter hdepth p ?_
  have hbody := fieldNames_getterBody hdepth p
  simp (disch := exact Statement.fieldName?_eq_none hdepth (id rfl) (id rfl) (id rfl)) [hbody]

theorem fieldNames_partialHash : b.partialHash.fieldNames depth = [] := by
  have hadd (p : Property) : Code.fieldNames depth [b.shiftHash, b.addHash p] = [] := by
    have hline : (b.addHash p).fieldName? depth = none := by
      rw [addHash]
      split <;> exact Statement.fieldName?_eq_none hdepth rfl rfl rfl
    rw [Code.fieldNames_cons_none, Code.fieldNames_cons_none hline, Code.fieldNames_nil]
    exact Statement.fieldName?_eq_none hdepth rfl rfl rfl
  simp (disch := exact Statement.fieldName?_eq_none hdepth (id rfl) (id rfl) (id rfl))
    [partialHash, overriding, hadd]

theorem fieldNames_partialText : b.partialText.fieldNames depth = [] := by
  rw [partialText]
  split
  · simp (disch := exact Statement.fieldName?_eq_none hdepth (id rfl) (id rfl) (id rfl))
  · exact fieldNames_joinedText hdepth _ _

theorem fieldNames_partialEquals :
    (b.equals b.partialClass (fun p => p.isNullable || p.tracksUnset)
      b.partialEqualsResult).fieldNames depth = [] := by
  refine b.fieldNames_equals hdepth _ _ ?_
  rw [partialEqualsResult]
  split <;> exact Statement.fieldName?_eq_none hdepth rfl rfl rfl

end Nested

theorem fieldNames_valueType : b.valueType.fieldNames 2 = [] := by
  have hdepth : 2 = 2 ∨ 2 = 4 := .inl rfl
  have hhead : b.valueHead.fieldNames 2 = [] := by
    rw [valueHead]
    split
    · have hhead := b.fieldNames_nestedHead hdepth b.valueClass (.inl rfl)
      rw [Code.fieldNames_cons_none (Statement.fieldName?_of_opening rfl rfl)] at hhead ⊢
      rw [Code.fieldNames_cons_none (Statement.fieldName?_of_opening rfl rfl), hhead]
    · exact b.fieldNames_nestedHead hdepth b.valueClass (.inr rfl)
  have hgetter (p : Property) : (getter p p.getterBody).fieldNames 2 = [] :=
    fieldNames_getter hdepth p (fieldNames_getterBody hdepth p)
  have hequals :
      (b.equals b.valueClass Property.isNullable "      return true;").fieldNames 2 = [] :=
    b.fieldNames_equals hdepth _ _ (Statement.fieldName?_of_opening rfl rfl)
  have htext : (toStringMethod b.valueText).fieldNames 2 = [] := by
    refine fieldNames_toStringMethod hdepth ?_
    rw [valueText]
    split
    · simp (disch := exact Statement.fieldName?_of_opening (id rfl) (id rfl))
    · split
      · exact fieldNames_joinedText hdepth _ _
      · simp (disch := exact Statement.fieldName?_of_opening (id rfl) (id rfl))
        [fieldNames_concatenated hdepth]
  simp (disch := exact Statement.fieldName?_of_opening (id rfl) (id rfl))
    [valueType, hhead, valueHash, overriding, hgetter, hequals, htext,
      Property.fieldNames_valueField_two,
      b.fieldNames_nestedConstructor hdepth b.valueClass (.inl rfl)]

theorem fieldNames_partialType_two : b.partialType.fieldNames 2 = [] := by
  have hdepth : 2 = 2 ∨ 2 = 4 := .inl rfl
  simp (disch := exact Statement.fieldName?_of_opening (id rfl) (id rfl))
    [partialType, b.fieldNames_nestedHead hdepth b.partialClass (.inr rfl),
      Property.fieldNames_valueField_two,
      b.fieldNames_nestedConstructor hdepth b.partialClass (.inr rfl),
      b.fieldNames_partialGetter hdepth, b.fieldNames_partialEquals hdepth,
      b.fieldNames_partialHash hdepth,
      fieldNames_toStringMethod hdepth (b.fieldNames_partialText hdepth)]

/-- The fields of values that may lack properties. -/
theorem fieldNames_partialType :
    b.partialType.fieldNames 4 =
      b.properties.map (·.name.toList) ++ b.trackingFields.map String.toList := by
  have hdepth : 4 = 2 ∨ 4 = 4 := .inr rfl
  have hgetters : b.properties.flatMap (fun p => (b.partialGetter p).fieldNames 4) = [] :=
    List.flatMap_eq_nil_iff.2 fun p _ => b.fieldNames_partialGetter hdepth p
  rw [trackingFields]
  cases hrequired : b.hasRequired <;>
    simp (disch := exact Statement.fieldName?_of_opening (id rfl) (id rfl)) only [partialType,
      b.fieldNames_nestedHead hdepth b.partialClass (.inr rfl), Property.fieldNames_valueField,
      b.fieldNames_nestedConstructor hdepth b.partialClass (.inr rfl), hgetters,
      b.fieldNames_partialEquals hdepth, b.fieldNames_partialHash hdepth,
      fieldNames_toStringMethod hdepth (b.fieldNames_partialText hdepth), hrequired,
      Bool.false_eq_true, if_true, if_false, Code.fieldNames_joined_cons,
      Code.fieldNames_joined_nil, Code.fieldNames_flatMap, Code.fieldNames_cons_none,
      Code.fieldNames_cons_some, Code.fieldNames_nil, ← List.map_eq_flatMap, List.nil_append] <;>
    rfl

theorem fieldNames_serializer : b.serializer.fieldNames 2 = [] := by
  have hread (p : Property) (reader : String) : (readField p reader).fieldName? 2 = none := by
    rw [readField]
    split <;> exact Statement.fieldName?_of_opening rfl rfl
  have hrestore (p : Property) : (b.restoreField p).fieldNames 2 = [] := by
    have hset (builder stored : String) : (p.setFromResult builder stored).fieldNames 2 = [] := by
      rw [Property.setFromResult]
      cases p.strategy <;> simp (disch := exact Statement.fieldName?_of_opening (id rfl) (id rfl))
    have hblock : Code.fieldNames 2 ["      \x7b", readField p b.streamReader] = [] := by
      rw [Code.fieldNames_cons_none (Statement.fieldName?_of_opening rfl rfl),
        Code.fieldNames_cons_none (hread p _), Code.fieldNames_nil]
    simp (disch := exact Statement.fieldName?_of_opening (id rfl) (id rfl))
      [restoreField, hset, hblock]
  have hwrite (properties : List Property) :
      Code.fieldNames 2 (properties.map writeField) = [] := by
    have hline (p : Property) : (writeField p).fieldName? 2 = none := by
      rw [writeField]
      split <;> exact Statement.fieldName?_of_opening rfl rfl
    induction properties with
    | nil => rfl
    | cons p properties ih => rw [List.map_cons, Code.fieldNames_cons_none (hline p), ih]
  rw [serializer]
  cases b.factory <;>
    simp (disch := exact Statement.fieldName?_of_opening (id rfl) (id rfl))
      [serializerHead, instantiate, serialize, hrestore, hwrite]

end Blueprint

/-! ## The class -/

/-- The fields that a section declares as members of the class. -/
theorem Section.fieldNames_code (generator : String) (level : SourceLevel) (b : Blueprint)
    (s : Section) :
    (s.code generator level b).fieldNames 2 =
      match s with
      | header => [Blueprint.joinerField.toList]
      | fields => b.properties.map (·.name.toList) ++ b.trackingFields.map String.toList
      | _ => [] := by
  cases s with
  | header => exact b.fieldNames_header generator
  | propertyEnum => exact b.fieldNames_propertyEnumClass
  | fields => exact b.fieldNames_fields level
  | accessors => exact b.fieldNames_accessors
  | valueType => exact b.fieldNames_valueType
  | serializer => exact b.fieldNames_serializer
  | build => exact b.fieldNames_build
  | mergeFromValue => exact b.fieldNames_mergeFromValue
  | mergeFromBuilder => exact b.fieldNames_mergeFromBuilder
  | clear => exact b.fieldNames_clear
  | partialType => exact b.fieldNames_partialType_two
  | buildPartial => exact b.fieldNames_buildPartial
  | footer => rfl

namespace Blueprint

variable (b : Blueprint)

/-- The fields of a generated class. -/
theorem fieldNames_classCode (generator : String) (level : SourceLevel) :
    (b.classCode generator level).fieldNames 2 =
      joinerField.toList ::
        (b.properties.map (·.name.toList) ++ b.trackingFields.map String.toList) := by
  rw [classCode, Code.fieldNames_flatMap, sections, Section.all]
  cases hrequired : b.hasRequired <;> cases hserializable : b.gwtSerializable <;>
    simp [Section.appliesTo, Section.fieldNames_code, hrequired, hserializable]

/-- Names repeat exactly if a property has the name of one of the other fields. -/
theorem nodup_append_names_iff {own : List String} (h : own.Nodup) :
    (b.properties.map (·.name) ++ own).Nodup ↔ ∀ p ∈ b.properties, p.name ∉ own := by
  rw [List.nodup_append']
  simp [b.names_nodup, h, List.disjoint_left]

/-! ## Names and getters -/

/-- What the name of a property is made from: its getter, without a prefix if all getters have
one. -/
def nameSource (p : Property) : String :=
  if b.stripsPrefixes then p.stem?.getD p.getter else p.getter

/-- A name that begins with a capital `C` or an underscore comes from no other stem than itself. -/
theorem eq_of_decapitalize_eq {getter stem name : String} {type : JavaType} {f : Char}
    (h : getterStem? getter type = some stem) (hf : name.toList.head? = some f)
    (hfirst : f = 'C' ∨ f = '_') (hname : decapitalize stem = name) : stem = name := by
  obtain ⟨c, cs, opening, hc, rfl, -⟩ := exists_of_getterStem? h
  have hcapital : c.toLower ≠ 'C' ∧ (c.toLower = '_' → c = '_') := by
    refine of_opensStem hc ?_
    decide +kernel
  rw [← hname] at hf ⊢
  rcases @toList_decapitalize c cs hc with hsame | hsmall
  · exact String.toList_inj.1 (by rw [hsame, String.toList_ofList])
  · rw [hsmall] at hf
    have hlower : c.toLower = f := Option.some.inj hf
    rcases hfirst with rfl | rfl
    · exact absurd hlower hcapital.1
    · have hself : c = c.toLower := by rw [hlower, hcapital.2 hlower]
      exact String.toList_inj.1 (by rw [hsmall, String.toList_ofList, ← hself])

/-- The generated class has these fields of its own. -/
theorem mem_own_cases {name : String} (h : name ∈ joinerField :: b.trackingFields) :
    name = joinerField ∨ name = unsetField := by
  rw [trackingFields] at h
  split at h <;> simp_all

end Blueprint

namespace TypeDeclaration

variable {declaration : TypeDeclaration} {conversion : Conversion}

/-- The name of a property is that of another field exactly if it is made from that name. -/
theorem name_eq_iff (h : declaration.convert = .ok conversion) {p : Property}
    (hp : p ∈ conversion.blueprint.properties) {name : String}
    (hown : name = Blueprint.joinerField ∨ name = unsetField) :
    p.name = name ↔ conversion.blueprint.nameSource p = name := by
  obtain ⟨-, hname⟩ := name_of_convert h hp
  cases hstrips : conversion.blueprint.stripsPrefixes with
  | false =>
    rw [hname, Blueprint.nameSource, hstrips]
    rfl
  | true =>
    obtain ⟨stem, hstem⟩ := Option.isSome_iff_exists.1 (List.all_eq_true.1 hstrips p hp)
    rw [Property.stem?] at hstem
    have hsource : conversion.blueprint.nameSource p = stem := by
      rw [Blueprint.nameSource, hstrips, Property.stem?, hstem]
      rfl
    have hderived : p.name = decapitalize stem := by
      rw [hname, hstrips, nameOfGetter, hstem]
      rfl
    rw [hsource, hderived]
    constructor
    · rcases hown with rfl | rfl
      · exact Blueprint.eq_of_decapitalize_eq hstem rfl (.inl rfl)
      · exact Blueprint.eq_of_decapitalize_eq hstem rfl (.inr rfl)
    · rintro rfl
      rcases hown with rfl | rfl <;> decide +kernel

/-- No property has the name of another field exactly if none is made from such a name. -/
theorem names_notMem_iff (h : declaration.convert = .ok conversion) {own : List String}
    (hown : own ⊆ Blueprint.joinerField :: conversion.blueprint.trackingFields) :
    (∀ p ∈ conversion.blueprint.properties, p.name ∉ own) ↔
      ∀ p ∈ conversion.blueprint.properties, conversion.blueprint.nameSource p ∉ own := by
  refine forall₂_congr fun p hp => not_congr ?_
  constructor
  · intro hmem
    rwa [(name_eq_iff h hp (Blueprint.mem_own_cases _ (hown hmem))).1 rfl]
  · intro hmem
    rwa [(name_eq_iff h hp (Blueprint.mem_own_cases _ (hown hmem))).2 rfl]

end TypeDeclaration

/-- The generated class of a converted declaration has the joiner's field, a field for each
property, and the set of unset properties if there are required ones, and `Partial` has the latter
two.  The names of these fields are distinct exactly if no getter, or no rest of a getter behind its
prefix, is the name of the joiner's field or of the set. -/
theorem declared_fields_distinct_iff (declaration : TypeDeclaration) (conversion : Conversion)
    (h : declaration.convert = .ok conversion) (generator : String) (level : SourceLevel) :
    let b := conversion.blueprint
    let names := b.properties.map (·.name)
    ((b.classCode generator level).fieldNames 2 =
        (Blueprint.joinerField :: (names ++ b.trackingFields)).map String.toList ∧
      b.partialType.fieldNames 4 = (names ++ b.trackingFields).map String.toList) ∧
    (((b.classCode generator level).fieldNames 2).Nodup ↔
      ∀ p ∈ b.properties, b.nameSource p ∉ Blueprint.joinerField :: b.trackingFields) ∧
    ((b.partialType.fieldNames 4).Nodup ↔
      ∀ p ∈ b.properties, b.nameSource p ∉ b.trackingFields) := by
  intro b names
  have hinjective : Function.Injective String.toList := fun _ _ => String.toList_inj.1
  have hclass : (b.classCode generator level).fieldNames 2 =
      (Blueprint.joinerField :: (names ++ b.trackingFields)).map String.toList := by
    rw [Blueprint.fieldNames_classCode, List.map_cons, List.map_append, List.map_map]
    rfl
  have hpartial : b.partialType.fieldNames 4 = (names ++ b.trackingFields).map String.toList := by
    rw [Blueprint.fieldNames_partialType, List.map_append, List.map_map]
    rfl
  have hown : (Blueprint.joinerField :: b.trackingFields).Nodup := by
    rw [Blueprint.trackingFields]
    split <;> decide
  have hmiddle : (Blueprint.joinerField :: (names ++ b.trackingFields)).Perm
      (names ++ Blueprint.joinerField :: b.trackingFields) := List.perm_middle.symm
  refine ⟨⟨hclass, hpartial⟩, ?builder, ?partialValue⟩
  case builder =>
    rw [hclass, List.nodup_map_iff hinjective, hmiddle.nodup_iff, b.nodup_append_names_iff hown]
    exact TypeDeclaration.names_notMem_iff h (List.Subset.refl _)
  case partialValue =>
    rw [hpartial, List.nodup_map_iff hinjective, b.nodup_append_names_iff hown.of_cons]
    exact TypeDeclaration.names_notMem_iff h (List.subset_cons_self _ _)

/-- Getters whose names come near to the other fields. -/
theorem declared_fields_distinct_iff_near :
    let declaration : TypeDeclaration :=
      { name := "com.example.Person"
        properties :=
          [{ getter := "getCommaJoiner", type := "String" },
            { getter := "getUnsetProperties", type := "int" },
            { getter := "get__unsetProperties", type := "String", hasDefault := true }] }
    ∃ conversion, declaration.convert = .ok conversion ∧
      ∀ level, ((conversion.blueprint.classCode "javabuilder-gen" level).fieldNames 2).Nodup ∧
        (conversion.blueprint.partialType.fieldNames 4).Nodup := by
  intro declaration
  have hconverted : (declaration.convert.toOption.map fun conversion =>
      (conversion.blueprint.properties.map conversion.blueprint.nameSource,
        conversion.blueprint.trackingFields)) =
      some (["CommaJoiner", "UnsetProperties", "__unsetProperties"], [unsetField]) := by
    decide +kernel
  obtain ⟨conversion, hconvert, hresult⟩ := map_toOption_eq_some_iff.1 hconverted
  obtain ⟨hsources, htracking⟩ := Prod.mk.inj hresult
  have hfree (own : List String)
      (h : ∀ source ∈ ["CommaJoiner", "UnsetProperties", "__unsetProperties"], source ∉ own) :
      ∀ p ∈ conversion.blueprint.properties, conversion.blueprint.nameSource p ∉ own :=
    fun p hp => h _ (hsources ▸ List.mem_map_of_mem hp)
  refine ⟨conversion, hconvert, fun level => ?_⟩
  obtain ⟨-, hclass, hpartial⟩ :=
    declared_fields_distinct_iff declaration conversion hconvert "javabuilder-gen" level
  rw [hclass, hpartial, htracking]
  exact ⟨hfree _ (by decide), hfree _ (by decide)⟩

/-- A getter whose property has the name of the set of unset properties.  Both classes declare two
fields of that name. -/
theorem declared_field_repeats_unset :
    let declaration : TypeDeclaration :=
      { name := "com.example.Person"
        properties := [{ getter := "get_unsetProperties", type := "String" }] }
    ∃ conversion, declaration.convert = .ok conversion ∧
      ∀ generator level,
        ¬((conversion.blueprint.classCode generator level).fieldNames 2).Nodup ∧
          ¬(conversion.blueprint.partialType.fieldNames 4).Nodup := by
  intro declaration
  have hconverted : (declaration.convert.toOption.map fun conversion =>
      (conversion.blueprint.properties.map (·.name.toList),
        conversion.blueprint.trackingFields.map String.toList)) =
      some ([unsetField.toList], [unsetField.toList]) := by
    decide +kernel
  obtain ⟨conversion, hconvert, hresult⟩ := map_toOption_eq_some_iff.1 hconverted
  obtain ⟨hnames, htracking⟩ := Prod.mk.inj hresult
  refine ⟨conversion, hconvert, fun generator level => ?_⟩
  rw [Blueprint.fieldNames_classCode, Blueprint.fieldNames_partialType, hnames, htracking]
  exact ⟨fun h => by simp at h, fun h => by simp at h⟩

end ValueBuilder
