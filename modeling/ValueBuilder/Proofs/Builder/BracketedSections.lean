import ValueBuilder.Proofs.Builder.BracketedAccessors
import ValueBuilder.Proofs.Builder.Emission

/-!
# Brackets of sections

The first section opens the block of the class and the last one closes it.  Each of the others
closes what it opens, for any properties.

* `Property` has the fragments of single properties, and `Blueprint` the methods.
* `Blueprint.effect_argumentList` and `Blueprint.effect_concatenated` are about text that is
  assembled from the items of all properties, by induction on these.
* `Section.effect_code` says it of the sections, and `Blueprint.effect_classCode` of the class.
-/

namespace ValueBuilder

open Java Effect

/-! ## Fragments of properties -/

namespace Property

variable (p : Property)

theorem effect_builderField (level : SourceLevel) : (p.builderField level).effect = 1 := by
  rw [builderField]
  cases p.strategy <;> cases level <;>
    simp (disch := (refine ofText_ofList (id rfl) ?_; decide))
      [elementsField, entriesField, SourceLevel.infersTypeArguments, ofText_eq 1]

theorem effect_valueField : p.valueField.effect = 1 := by
  rw [valueField]
  cases p.strategy <;>
    simp (disch := (refine ofText_ofList (id rfl) ?_; decide)) [ofText_eq 1]

theorem effect_assignField (field : Piece) (builder : String) :
    (p.assignField field builder).effect = 1 := by
  rw [assignField]
  cases p.strategy <;>
    simp (disch := (refine ofText_ofList (id rfl) ?_; decide)) [ofText_eq 1]

@[simp]
theorem effect_getterBody : p.getterBody.effect = 1 := by
  rw [getterBody]
  cases p.strategy <;>
    simp (disch := (refine ofText_ofList (id rfl) ?_; decide))
      [Accessors.returnOptional, ofText_eq 1]

theorem effect_mergeValue (value : String) : (p.mergeValue value).effect = 1 := by
  rw [mergeValue]
  cases p.strategy <;>
    simp (disch := (refine ofText_ofList (id rfl) ?_; decide)) [ofText_eq 1]

theorem effect_mergeBuilder (b : Blueprint) (builder : String) :
    (p.mergeBuilder b builder).effect = 1 := by
  rw [mergeBuilder]
  cases p.strategy <;>
    simp (disch := (refine ofText_ofList (id rfl) ?_; decide))
      [ofText_eq 1, ofText_eq opens, ofText_eq closes]

@[simp]
theorem effect_setFromResult (builder stored : String) :
    (p.setFromResult builder stored).effect = 1 := by
  rw [setFromResult]
  cases p.strategy <;>
    simp (disch := (refine ofText_ofList (id rfl) ?_; decide)) [ofText_eq 1]

theorem effect_clear (template : String) : (p.clear template).effect = 1 := by
  rw [clear]
  cases p.strategy <;>
    simp (disch := (refine ofText_ofList (id rfl) ?_; decide)) [ofText_eq 1]

theorem effect_clearAlone : p.clearAlone.effect = 1 := by
  rw [clearAlone]
  cases p.strategy <;>
    simp (disch := (refine ofText_ofList (id rfl) ?_; decide)) [ofText_eq 1]

end Property

namespace Blueprint

variable (b : Blueprint)

/-! ## The top of the class -/

theorem effect_header (generator : String) : (b.header generator).effect = opens := by
  simp (disch := (refine ofText_ofList (id rfl) ?_; decide))
    [header, ofText_eq 1, ofText_eq opens]

theorem effect_propertyEnumClass : b.propertyEnumClass.effect = 1 := by
  have hconstants : Code.effect (b.required.map fun p =>
      .template "    %s(\"%s\")," [Word.constant p.constant, .name p.name]) = 1 :=
    Code.effect_map fun p _ => by
      simp (disch := (refine ofText_ofList (id rfl) ?_; decide)) [ofText_eq 1]
  simp (disch := (refine ofText_ofList (id rfl) ?_; decide))
    [propertyEnumClass, hconstants, ofText_eq 1, ofText_eq opens, ofText_eq closes]

theorem effect_fields (level : SourceLevel) : (b.fields level).effect = 1 := by
  have hfields : Code.effect (b.properties.flatMap (·.builderField level)) = 1 :=
    Code.effect_flatMap fun p _ => p.effect_builderField level
  simp (disch := (refine ofText_ofList (id rfl) ?_; decide)) [fields, hfields, ofText_eq 1]

theorem effect_accessors : b.accessors.effect = 1 :=
  Code.effect_flatMap fun p _ => p.effect_accessors b

/-! ## Methods -/

theorem effect_build : b.build.effect = 1 := by
  simp (disch := (refine ofText_ofList (id rfl) ?_; decide))
    [build, ofText_eq 1, ofText_eq opens, ofText_eq closes]

theorem effect_buildPartial : b.buildPartial.effect = 1 := by
  simp (disch := (refine ofText_ofList (id rfl) ?_; decide))
    [buildPartial, ofText_eq 1, ofText_eq opens, ofText_eq closes]

theorem effect_mergeFromValue : b.mergeFromValue.effect = 1 := by
  have hmerge : Code.effect (b.properties.flatMap (·.mergeValue "value")) = 1 :=
    Code.effect_flatMap fun p _ => p.effect_mergeValue "value"
  simp (disch := (refine ofText_ofList (id rfl) ?_; decide))
    [mergeFromValue, hmerge, ofText_eq 1, ofText_eq opens, ofText_eq closes]

theorem effect_mergeFromBuilder : b.mergeFromBuilder.effect = 1 := by
  have hmerge : Code.effect (b.properties.flatMap fun p => p.mergeBuilder b b.template) = 1 :=
    Code.effect_flatMap fun p _ => p.effect_mergeBuilder b b.template
  simp (disch := (refine ofText_ofList (id rfl) ?_; decide))
    [mergeFromBuilder, hmerge, ofText_eq 1, ofText_eq opens, ofText_eq closes]

theorem effect_clear : b.clear.effect = 1 := by
  have htemplate (factory : Factory) : (b.clearToTemplate factory).effect = 1 := by
    have hclear : Code.effect (b.properties.flatMap (·.clear b.template)) = 1 :=
      Code.effect_flatMap fun p _ => p.effect_clear b.template
    simp (disch := (refine ofText_ofList (id rfl) ?_; decide))
      [clearToTemplate, hclear, ofText_eq 1]
  have hnothing : b.clearToNothing.effect = 1 := by
    have hclear : Code.effect (b.properties.flatMap Property.clearAlone) = 1 :=
      Code.effect_flatMap fun p _ => p.effect_clearAlone
    simp (disch := (refine ofText_ofList (id rfl) ?_; decide))
      [clearToNothing, hclear, ofText_eq 1]
  rw [clear]
  cases b.factory <;>
    simp (disch := (refine ofText_ofList (id rfl) ?_; decide))
      [htemplate, hnothing, ofText_eq 1, ofText_eq opens, ofText_eq closes]

/-! ## Nested classes -/

@[simp]
theorem effect_overriding : overriding.effect = 1 := by
  simp (disch := (refine ofText_ofList (id rfl) ?_; decide)) [overriding, ofText_eq 1]

theorem effect_nestedConstructor (template : String) (c : ClassName) :
    (b.nestedConstructor template c).effect = ofText template := by
  have hassign : Code.effect (b.properties.flatMap fun p =>
      p.assignField (Word.field "this" p.name) "builder") = 1 :=
    Code.effect_flatMap fun p _ => p.effect_assignField _ _
  simp (disch := (refine ofText_ofList (id rfl) ?_; decide))
    [nestedConstructor, hassign, ofText_eq 1]

theorem effect_getter {p : Property} {body : Code} (hbody : body.effect = 1) :
    (getter p body).effect = 1 := by
  simp (disch := (refine ofText_ofList (id rfl) ?_; decide))
    [getter, hbody, ofText_eq opens, ofText_eq closes]

/-- A comparison that looks for `null` has its condition on two lines. -/
theorem effect_differs (p : Property) (nullSafe : Bool) (other : String) :
    (differs p nullSafe other).effect = opens := by
  have hsecond : ofText "          && (%1$s == null || !%1$s.equals(%2$s.%1$s))) \x7b" =
      returns * opens := by
    refine ofText_ofList (id rfl) ?_
    decide
  rw [differs]
  split <;>
    simp (disch := (refine ofText_ofList (id rfl) ?_; decide))
      [hsecond, ofText_eq opens, ofText_eq calls]

theorem effect_equals (c : ClassName) (nullSafe : Property → Bool) {result : Statement}
    (hresult : result.effect = 1) : (b.equals c nullSafe result).effect = 1 := by
  have hcompare (p : Property) :
      (compareField p (nullSafe p) b.equalsOther).effect = 1 := by
    simp (disch := (refine ofText_ofList (id rfl) ?_; decide))
      [compareField, effect_differs, ofText_eq 1, ofText_eq closes]
  have hproperties : Code.effect
      (b.properties.flatMap fun p => compareField p (nullSafe p) b.equalsOther) = 1 :=
    Code.effect_flatMap fun p _ => hcompare p
  simp (disch := (refine ofText_ofList (id rfl) ?_; decide))
    [equals, equalsHead, hproperties, hresult, ofText_eq 1, ofText_eq opens, ofText_eq closes]

theorem effect_toStringMethod {body : Code} (hbody : body.effect = 1) :
    (toStringMethod body).effect = 1 := by
  simp (disch := (refine ofText_ofList (id rfl) ?_; decide))
    [toStringMethod, hbody, ofText_eq opens, ofText_eq closes]

/-! ## Texts of values -/

/-- Whether words are those of a property in a text. -/
inductive IsEntry : List Word → Prop
  | labelled (p : Property) : IsEntry (labelled p)
  | unlessNull (p : Property) : IsEntry (labelledUnlessNull p)
  | unlessUnset (p : Property) : IsEntry (b.labelledUnlessUnset p)

variable {b} {items : List (List Word)}

theorem IsEntry.effect_more {item : List Word} (h : b.IsEntry item) :
    (Statement.verbatim (joined [["              "], item, [","]])).effect = 1 := by
  rw [Statement.effect_verbatim]
  cases h <;>
    · refine ofTexts_ofList (by repeat constructor) ?_
      decide

theorem IsEntry.effect_last {item : List Word} (h : b.IsEntry item) :
    (Statement.verbatim (joined [["              "], item, [")"]])).effect = returns := by
  rw [Statement.effect_verbatim]
  cases h <;>
    · refine ofTexts_ofList (by repeat constructor) ?_
      decide

/-- The last line of the arguments has the parenthesis that ends them. -/
theorem effect_argumentList (hitems : items ≠ []) (h : ∀ item ∈ items, b.IsEntry item) :
    (argumentList items).effect = returns := by
  fun_induction argumentList items with
  | case1 => exact absurd rfl hitems
  | case2 last =>
    rw [Code.effect_cons, (h last (List.mem_singleton.2 rfl)).effect_last, Code.effect_nil, mul_one]
  | case3 item rest hrest ih =>
    obtain ⟨hitem, hitems⟩ := List.forall_mem_cons.1 h
    rw [Code.effect_cons, hitem.effect_more, ih (by simpa using hrest) hitems, one_mul]

variable (b)

theorem effect_joinedText {opening : List Word} (hitems : items ≠ [])
    (h : ∀ item ∈ items, b.IsEntry item)
    (hopening : (Statement.verbatim (joined [["      return "], opening])).effect = opens) :
    (joinedText opening items).effect = 1 := by
  simp (disch := (refine ofText_ofList (id rfl) ?_; decide))
    [joinedText, hopening, effect_argumentList hitems h, mul_assoc, ofText_eq calls,
      ofText_eq closes]

/-- The last line has the brace that ends the text. -/
theorem effect_concatenated {properties : List Property} (h : properties ≠ []) :
    (concatenated properties).effect = closes := by
  have hlast (p : Property) :
      (Statement.verbatim (joined [["          + "], labelled p, [" + \"\x7d\";"]])).effect =
        closes := by
    rw [Statement.effect_verbatim]
    refine ofTexts_ofList (by repeat constructor) ?_
    decide
  have hmore (p : Property) :
      (Statement.verbatim (joined [["          + "], labelled p, [" + \", \""]])).effect = 1 := by
    rw [Statement.effect_verbatim]
    refine ofTexts_ofList (by repeat constructor) ?_
    decide
  fun_induction concatenated properties with
  | case1 => exact absurd rfl h
  | case2 last => rw [Code.effect_cons, hlast, Code.effect_nil, mul_one]
  | case3 p rest hrest ih => rw [Code.effect_cons, hmore, ih (by simpa using hrest), one_mul]

theorem effect_valueText : b.valueText.effect = 1 := by
  have hempty (name : String) :
      (Statement.verbatim ["      return \"", .name name, "\x7b\x7d\";"]).effect = 1 := by
    rw [Statement.effect_verbatim]
    refine ofTexts_ofList (by repeat constructor) ?_
    decide
  have hopening (name : String) :
      (Statement.verbatim ["      return \"", .name name, "\x7b\""]).effect = opens := by
    rw [Statement.effect_verbatim]
    refine ofTexts_ofList (by repeat constructor) ?_
    decide
  have hjoined (name : String) :
      (Statement.verbatim (joined [["      return "], ["\"", .name name, "\x7b\""]])).effect =
        opens := by
    rw [Statement.effect_verbatim]
    refine ofTexts_ofList (by repeat constructor) ?_
    decide
  rw [valueText]
  split_ifs with hproperties hoptional
  · rw [Code.effect_cons, hempty, Code.effect_nil, mul_one]
  · refine b.effect_joinedText (by simpa using hproperties) ?_ (hjoined _)
    intro item hitem
    obtain ⟨p, -, rfl⟩ := List.mem_map.1 hitem
    split_ifs
    · exact IsEntry.unlessNull p
    · exact IsEntry.labelled p
  · simp [hopening, effect_concatenated (by simpa using hproperties)]

theorem effect_partialText : b.partialText.effect = 1 := by
  have hempty (name : String) :
      (Statement.verbatim ["      return \"partial ", .name name, "\x7b\x7d\";"]).effect = 1 := by
    rw [Statement.effect_verbatim]
    refine ofTexts_ofList (by repeat constructor) ?_
    decide
  have hjoined (name : String) :
      (Statement.verbatim (joined [["      return "], ["\"partial ", .name name, "\x7b\""]])).effect =
        opens := by
    rw [Statement.effect_verbatim]
    refine ofTexts_ofList (by repeat constructor) ?_
    decide
  rw [partialText]
  split_ifs with hproperties
  · rw [Code.effect_cons, hempty, Code.effect_nil, mul_one]
  · refine b.effect_joinedText (by simpa using hproperties) ?_ (hjoined _)
    intro item hitem
    obtain ⟨p, -, rfl⟩ := List.mem_map.1 hitem
    split_ifs
    · exact IsEntry.unlessUnset p
    · exact IsEntry.unlessNull p
    · exact IsEntry.labelled p

/-! ## Classes of values -/

theorem effect_valueHash : b.valueHash.effect = 1 := by
  simp (disch := (refine ofText_ofList (id rfl) ?_; decide))
    [valueHash, ofText_eq 1, ofText_eq opens, ofText_eq closes]

theorem effect_valueType : b.valueType.effect = 1 := by
  have hhead : b.valueHead.effect = opens := by
    simp (disch := (refine ofText_ofList (id rfl) ?_; decide))
      [valueHead, nestedHead, ofText_eq 1, ofText_eq opens]
  have hfields : Code.effect (b.properties.flatMap Property.valueField) = 1 :=
    Code.effect_flatMap fun p _ => p.effect_valueField
  have hgetters : Code.effect (b.properties.flatMap fun p => getter p p.getterBody) = 1 :=
    Code.effect_flatMap fun p _ => effect_getter p.effect_getterBody
  have hequals : (b.equals b.valueClass Property.isNullable "      return true;").effect = 1 := by
    refine b.effect_equals b.valueClass _ ?_
    simp (disch := (refine ofText_ofList (id rfl) ?_; decide)) [ofText_eq 1]
  simp (disch := (refine ofText_ofList (id rfl) ?_; decide))
    [valueType, hhead, hfields, hgetters, hequals, effect_nestedConstructor, effect_valueHash,
      effect_toStringMethod b.effect_valueText, ofText_eq opens, ofText_eq closes]

theorem effect_partialGetter (p : Property) : (b.partialGetter p).effect = 1 := by
  have hthrow (name : String) :
      (Statement.verbatim ["        throw new UnsupportedOperationException(\"", .name name,
        " not set\");"]).effect = 1 := by
    rw [Statement.effect_verbatim]
    refine ofTexts_ofList (by repeat constructor) ?_
    decide
  refine effect_getter ?_
  simp (disch := (refine ofText_ofList (id rfl) ?_; decide))
    [hthrow, ofText_eq opens, ofText_eq closes]

theorem effect_partialHash : b.partialHash.effect = 1 := by
  have hshift : b.shiftHash.effect = 1 := by
    simp (disch := (refine ofText_ofList (id rfl) ?_; decide)) [shiftHash, ofText_eq 1]
  have hadd (p : Property) : (b.addHash p).effect = 1 := by
    rw [addHash]
    split <;> simp (disch := (refine ofText_ofList (id rfl) ?_; decide)) [ofText_eq 1]
  have hproperties : Code.effect (b.properties.flatMap fun p => [b.shiftHash, b.addHash p]) = 1 :=
    Code.effect_flatMap fun p _ => by simp [hshift, hadd]
  simp (disch := (refine ofText_ofList (id rfl) ?_; decide))
    [partialHash, hproperties, hshift, ofText_eq 1, ofText_eq opens, ofText_eq closes]

theorem effect_partialType : b.partialType.effect = 1 := by
  have hfields : Code.effect (b.properties.flatMap Property.valueField) = 1 :=
    Code.effect_flatMap fun p _ => p.effect_valueField
  have hgetters : Code.effect (b.properties.flatMap b.partialGetter) = 1 :=
    Code.effect_flatMap fun p _ => b.effect_partialGetter p
  have hresult : b.partialEqualsResult.effect = 1 := by
    simp (disch := (refine ofText_ofList (id rfl) ?_; decide)) [partialEqualsResult, ofText_eq 1]
  simp (disch := (refine ofText_ofList (id rfl) ?_; decide))
    [partialType, nestedHead, hfields, hgetters, b.effect_equals _ _ hresult,
      effect_nestedConstructor, effect_partialHash, effect_toStringMethod b.effect_partialText,
      ofText_eq 1, ofText_eq opens, ofText_eq closes]

/-! ## The serializer -/

theorem effect_serializer : b.serializer.effect = 1 := by
  have hhead : b.serializerHead.effect = opens := by
    simp (disch := (refine ofText_ofList (id rfl) ?_; decide))
      [serializerHead, ofText_eq 1, ofText_eq opens, ofText_eq closes]
  have hread (p : Property) : (readField p b.streamReader).effect = 1 := by
    rw [readField]
    split <;> simp (disch := (refine ofText_ofList (id rfl) ?_; decide)) [ofText_eq 1]
  have hrestore (p : Property) : (b.restoreField p).effect = 1 := by
    simp (disch := (refine ofText_ofList (id rfl) ?_; decide))
      [restoreField, hread, ofText_eq opens, ofText_eq closes]
  have hproperties : Code.effect (b.properties.flatMap b.restoreField) = 1 :=
    Code.effect_flatMap fun p _ => hrestore p
  have hinstantiate (factory : Factory) : (b.instantiate factory).effect = 1 := by
    simp (disch := (refine ofText_ofList (id rfl) ?_; decide))
      [instantiate, hproperties, ofText_eq 1, ofText_eq opens, ofText_eq closes]
  have hwrite : Code.effect (b.properties.map writeField) = 1 :=
    Code.effect_map fun p _ => by
      rw [writeField]
      split <;> simp (disch := (refine ofText_ofList (id rfl) ?_; decide)) [ofText_eq 1]
  have hserialize : b.serialize.effect = 1 := by
    simp (disch := (refine ofText_ofList (id rfl) ?_; decide))
      [serialize, hwrite, ofText_eq 1, ofText_eq opens, ofText_eq closes]
  rw [serializer]
  split
  · rfl
  · simp (disch := (refine ofText_ofList (id rfl) ?_; decide))
      [hhead, hinstantiate, hserialize, ofText_eq closes]

end Blueprint

/-! ## The class -/

/-- What a section does to the block of the class. -/
def Section.effect : Section → Effect
  | header => opens
  | footer => closes
  | _ => 1

theorem Section.effect_code (generator : String) (level : SourceLevel) (b : Blueprint)
    (s : Section) : (s.code generator level b).effect = s.effect := by
  cases s with
  | header => exact b.effect_header generator
  | propertyEnum => exact b.effect_propertyEnumClass
  | fields => exact b.effect_fields level
  | accessors => exact b.effect_accessors
  | valueType => exact b.effect_valueType
  | serializer => exact b.effect_serializer
  | build => exact b.effect_build
  | mergeFromValue => exact b.effect_mergeFromValue
  | mergeFromBuilder => exact b.effect_mergeFromBuilder
  | clear => exact b.effect_clear
  | partialType => exact b.effect_partialType
  | buildPartial => exact b.effect_buildPartial
  | footer =>
    simp (disch := (refine ofText_ofList (id rfl) ?_; decide)) [code, effect, ofText_eq closes]

/-- The class closes what it opens: between header and footer, sections that may be left out have no
effect. -/
theorem Blueprint.effect_classCode (generator : String) (level : SourceLevel) (b : Blueprint) :
    (b.classCode generator level).effect = 1 := by
  have hsections : (b.sections.map Section.effect).prod = 1 := by
    cases hrequired : b.hasRequired <;> cases hserializer : b.gwtSerializable <;>
      simp [sections, Section.all, Section.appliesTo, Section.effect, hrequired, hserializer]
  have heffects : (fun s : Section => (s.code generator level b).effect) = Section.effect :=
    funext (Section.effect_code generator level b)
  rw [classCode, Code.effect_flatMap_eq_prod, heffects, hsections]

end ValueBuilder
