import ValueBuilder.Builder.Section
import ValueBuilder.Proofs.Builder.AccessorTemplates

/-!
# The templates of sections

Every template of every section fits its arguments, for all blueprints and source levels
(`Section.fits_code`).  What one property contributes is checked for each strategy first.
-/

namespace ValueBuilder

open Java

/-! ## Properties -/

namespace Property

variable (p : Property)

/-- The field's template depends on the source level; both have placeholders for the same
arguments. -/
@[simp]
theorem fits_builderField (level : SourceLevel) : (p.builderField level).Fits := by
  rw [builderField]
  cases p.strategy <;> cases level <;>
    simp (disch := exact Template.fits_ofList rfl rfl)
      [elementsField, entriesField, SourceLevel.infersTypeArguments, Template.fits_of_check]

@[simp]
theorem fits_valueField : p.valueField.Fits := by
  rw [valueField]
  cases p.strategy <;>
    simp (disch := exact Template.fits_ofList rfl rfl) [Template.fits_of_check]

@[simp]
theorem fits_assignField (field : Piece) (builder : String) :
    (p.assignField field builder).Fits := by
  rw [assignField]
  cases p.strategy <;>
    simp (disch := exact Template.fits_ofList rfl rfl) [Template.fits_of_check]

@[simp]
theorem fits_getterBody : p.getterBody.Fits := by
  rw [getterBody]
  cases p.strategy <;>
    simp (disch := exact Template.fits_ofList rfl rfl) [Template.fits_of_check]

@[simp]
theorem fits_mergeValue (value : String) : (p.mergeValue value).Fits := by
  rw [mergeValue]
  cases p.strategy <;>
    simp (disch := exact Template.fits_ofList rfl rfl) [Template.fits_of_check]

@[simp]
theorem fits_mergeBuilder (b : Blueprint) (builder : String) :
    (p.mergeBuilder b builder).Fits := by
  rw [mergeBuilder]
  cases p.strategy <;>
    simp (disch := exact Template.fits_ofList rfl rfl) [Template.fits_of_check]

@[simp]
theorem fits_setFromResult (builder stored : String) :
    (p.setFromResult builder stored).Fits := by
  rw [setFromResult]
  cases p.strategy <;>
    simp (disch := exact Template.fits_ofList rfl rfl) [Template.fits_of_check]

@[simp]
theorem fits_clear (template : String) : (p.clear template).Fits := by
  rw [clear]
  cases p.strategy <;>
    simp (disch := exact Template.fits_ofList rfl rfl) [Template.fits_of_check]

@[simp]
theorem fits_clearAlone : p.clearAlone.Fits := by
  rw [clearAlone]
  cases p.strategy <;>
    simp (disch := exact Template.fits_ofList rfl rfl) [Template.fits_of_check]

end Property

namespace Blueprint

variable (b : Blueprint)

/-! ## The top of the class -/

theorem fits_header (generator : String) : (b.header generator).Fits := by
  simp (disch := exact Template.fits_ofList rfl rfl) [header, Template.fits_of_check]

theorem fits_propertyEnumClass : b.propertyEnumClass.Fits := by
  simp (disch := exact Template.fits_ofList rfl rfl) [propertyEnumClass, Template.fits_of_check]

theorem fits_fields (level : SourceLevel) : (b.fields level).Fits := by
  simp (disch := exact Template.fits_ofList rfl rfl) [fields, Template.fits_of_check]

theorem fits_accessors : b.accessors.Fits := by
  simp [accessors, Property.fits_accessors]

/-! ## Methods -/

theorem fits_build : b.build.Fits := by
  simp (disch := exact Template.fits_ofList rfl rfl) [build, Template.fits_of_check]

theorem fits_buildPartial : b.buildPartial.Fits := by
  simp (disch := exact Template.fits_ofList rfl rfl) [buildPartial, Template.fits_of_check]

theorem fits_mergeFromValue : b.mergeFromValue.Fits := by
  simp (disch := exact Template.fits_ofList rfl rfl) [mergeFromValue, Template.fits_of_check]

theorem fits_mergeFromBuilder : b.mergeFromBuilder.Fits := by
  simp (disch := exact Template.fits_ofList rfl rfl) [mergeFromBuilder, Template.fits_of_check]

theorem fits_clearToTemplate (factory : Factory) : (b.clearToTemplate factory).Fits := by
  simp (disch := exact Template.fits_ofList rfl rfl) [clearToTemplate, Template.fits_of_check]

theorem fits_clearToNothing : b.clearToNothing.Fits := by
  simp (disch := exact Template.fits_ofList rfl rfl) [clearToNothing, Template.fits_of_check]

theorem fits_clear : b.clear.Fits := by
  rw [clear]
  cases b.factory with
  | none =>
    simp (disch := exact Template.fits_ofList rfl rfl)
      [b.fits_clearToNothing, Template.fits_of_check]
  | some factory =>
    simp (disch := exact Template.fits_ofList rfl rfl)
      [b.fits_clearToTemplate, Template.fits_of_check]

/-! ## Nested classes -/

@[simp]
theorem fits_nestedHead {b : Blueprint} {template : String} {c : ClassName} :
    (b.nestedHead template c).Fits ↔ Template.fits template 3 = true :=
  Iff.rfl

@[simp]
theorem fits_nestedConstructor {b : Blueprint} {template : String} {c : ClassName} :
    (b.nestedConstructor template c).Fits ↔ Template.fits template 2 = true := by
  simp [nestedConstructor]

@[simp]
theorem fits_overriding : overriding.Fits := by
  simp [overriding]

@[simp]
theorem fits_getter {p : Property} {body : Code} : (getter p body).Fits ↔ body.Fits := by
  simp (disch := exact Template.fits_ofList rfl rfl) [getter, Template.fits_of_check]

/-- Each way to compare a field has its own template. -/
theorem fits_compareField (p : Property) (nullSafe : Bool) (other : String) :
    (compareField p nullSafe other).Fits := by
  have hdiffers : (differs p nullSafe other).Fits := by
    rw [differs]
    split <;> simp (disch := exact Template.fits_ofList rfl rfl) [Template.fits_of_check]
  simp [compareField, hdiffers]

@[simp]
theorem fits_equals {c : ClassName} {nullSafe : Property → Bool} {result : Statement} :
    (b.equals c nullSafe result).Fits ↔ result.Fits := by
  simp (disch := exact Template.fits_ofList rfl rfl)
    [equals, equalsHead, fits_compareField, Template.fits_of_check]

@[simp]
theorem fits_argumentList (items : List (List Word)) : (argumentList items).Fits := by
  fun_induction argumentList items with
  | case1 => simp
  | case2 last => simp
  | case3 item rest hrest ih => simp [ih]

@[simp]
theorem fits_concatenated (properties : List Property) : (concatenated properties).Fits := by
  fun_induction concatenated properties with
  | case1 => simp
  | case2 last => simp
  | case3 p rest hrest ih => simp [ih]

@[simp]
theorem fits_toStringMethod {body : Code} : (toStringMethod body).Fits ↔ body.Fits := by
  simp [toStringMethod]

theorem fits_valueHash : b.valueHash.Fits := by
  simp (disch := exact Template.fits_ofList rfl rfl) [valueHash, Template.fits_of_check]

theorem fits_valueType : b.valueType.Fits := by
  have hhead : b.valueHead.Fits := by
    simp (disch := exact Template.fits_ofList rfl rfl) [valueHead, Template.fits_of_check]
  have htext : b.valueText.Fits := by simp [valueText, joinedText]
  simp (disch := exact Template.fits_ofList rfl rfl)
    [valueType, hhead, htext, fits_valueHash, Template.fits_of_check]

theorem fits_partialHash : b.partialHash.Fits := by
  have hadd (p : Property) : (b.addHash p).Fits := by
    rw [addHash]
    split <;> exact Template.fits_ofList rfl rfl
  simp (disch := exact Template.fits_ofList rfl rfl)
    [partialHash, shiftHash, hadd, Template.fits_of_check]

theorem fits_partialType : b.partialType.Fits := by
  have hgetter (p : Property) : (b.partialGetter p).Fits := by
    simp (disch := exact Template.fits_ofList rfl rfl) [partialGetter, Template.fits_of_check]
  have hresult : b.partialEqualsResult.Fits := by
    simp (disch := exact Template.fits_ofList rfl rfl) [partialEqualsResult, Template.fits_of_check]
  have htext : b.partialText.Fits := by simp [partialText, joinedText]
  simp (disch := exact Template.fits_ofList rfl rfl)
    [partialType, hgetter, hresult, htext, fits_partialHash, Template.fits_of_check]

/-! ## The serializer -/

theorem fits_instantiate (factory : Factory) : (b.instantiate factory).Fits := by
  have hread (p : Property) (reader : String) : (readField p reader).Fits := by
    rw [readField]
    split <;> exact Template.fits_ofList rfl rfl
  have hrestore (p : Property) : (b.restoreField p).Fits := by simp [restoreField, hread]
  simp (disch := exact Template.fits_ofList rfl rfl)
    [instantiate, hrestore, Template.fits_of_check]

theorem fits_serialize : b.serialize.Fits := by
  have hwrite (p : Property) : (writeField p).Fits := by
    rw [writeField]
    split <;> exact Template.fits_ofList rfl rfl
  simp (disch := exact Template.fits_ofList rfl rfl) [serialize, hwrite, Template.fits_of_check]

theorem fits_serializer : b.serializer.Fits := by
  have hhead : b.serializerHead.Fits := by
    simp (disch := exact Template.fits_ofList rfl rfl) [serializerHead, Template.fits_of_check]
  rw [serializer]
  split
  · exact Code.fits_nil
  · next factory => simp [hhead, b.fits_instantiate, b.fits_serialize]

end Blueprint

/-! ## Sections -/

/-- The templates of a section fit, whatever the blueprint, the generator and the source level. -/
theorem Section.fits_code (generator : String) (level : SourceLevel) (b : Blueprint)
    (s : Section) : (s.code generator level b).Fits := by
  cases s with
  | header => exact b.fits_header generator
  | propertyEnum => exact b.fits_propertyEnumClass
  | fields => exact b.fits_fields level
  | accessors => exact b.fits_accessors
  | valueType => exact b.fits_valueType
  | serializer => exact b.fits_serializer
  | build => exact b.fits_build
  | mergeFromValue => exact b.fits_mergeFromValue
  | mergeFromBuilder => exact b.fits_mergeFromBuilder
  | clear => exact b.fits_clear
  | partialType => exact b.fits_partialType
  | buildPartial => exact b.fits_buildPartial
  | footer => simp [code]

end ValueBuilder
