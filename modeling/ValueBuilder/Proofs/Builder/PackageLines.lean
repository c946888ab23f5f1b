import ValueBuilder.Proofs.Builder.PlainNames
import ValueBuilder.Proofs.Source.PackageLines

/-!
# Classes without package lines

No statement of a generated class begins with a small `p` or with a gap, so none of them can write a
package line.

* `Section.avoidsPackage_code` says it of the sections.  Each property strategy is checked first.
* `Blueprint.IsPlain.avoidsPackage_text`: with plain names, and a generator whose name has no line
  break, no line of the class is a package line.
-/

namespace ValueBuilder

open Java Shape

/-! ## Accessors -/

namespace Accessors

variable (b : Blueprint) (p : Property) (e : Element)

@[simp]
theorem avoidsPackage_linkGetter {template : String} :
    (b.linkGetter p template).AvoidsPackage ↔ textAvoidsPackage true template = true :=
  Iff.rfl

@[simp]
theorem avoidsPackage_returnsBuilder : b.returnsBuilder.AvoidsPackage :=
  Statement.avoidsPackage_template.2 (textAvoidsPackage_ofList rfl rfl)

@[simp]
theorem avoidsPackage_returnBuilder : b.returnBuilder.AvoidsPackage :=
  Statement.avoidsPackage_template.2 (textAvoidsPackage_ofList rfl rfl)

theorem avoidsPackage_plain (setter : String) : (plain b p setter).AvoidsPackage := by
  simp (disch := exact textAvoidsPackage_ofList rfl rfl)
    [plain, plainSetter, plainGetter, throwsIfArgumentNull, storeArgument,
      textAvoidsPackage_of_check]

theorem avoidsPackage_optional (flavour : OptionalFlavour) (methods : OptionalMethods) :
    (optional b p flavour methods e).AvoidsPackage := by
  have hsetters : (optionalSetter b p methods e).AvoidsPackage ∧
      (optionalOptionalSetter b p flavour methods e).AvoidsPackage ∧
        (optionalNullableSetter b p methods e).AvoidsPackage := by
    simp (disch := exact textAvoidsPackage_ofList rfl rfl)
      [optionalSetter, optionalOptionalSetter, optionalNullableSetter, optionalDocumentation,
        setOrClear, throwsIfArgumentNull, storeArgument, textAvoidsPackage_of_check]
  simp (disch := exact textAvoidsPackage_ofList rfl rfl)
    [optional, hsetters, optionalClear, optionalGetter, returnOptional, textAvoidsPackage_of_check]

@[simp]
theorem avoidsPackage_addOne : (addOne b p e).AvoidsPackage := by
  simp (disch := exact textAvoidsPackage_ofList rfl rfl)
    [addOne, addElement, throwsIfElementNull, textAvoidsPackage_of_check]

@[simp]
theorem avoidsPackage_throwsIfContainsNull : throwsIfContainsNull.AvoidsPackage := by
  simp (disch := exact textAvoidsPackage_ofList rfl rfl)
    [throwsIfContainsNull, textAvoidsPackage_of_check]

@[simp]
theorem avoidsPackage_adders :
    (addArrayHead b p e).AvoidsPackage ∧ (addAllHead b p e).AvoidsPackage ∧
      (addEach b p e).AvoidsPackage := by
  simp (disch := exact textAvoidsPackage_ofList rfl rfl)
    [addArrayHead, addAllHead, addEach, textAvoidsPackage_of_check]

@[simp]
theorem avoidsPackage_clearAll {description : String} :
    (clearAll b p description).AvoidsPackage ↔ textAvoidsPackage true description = true := by
  simp (disch := exact textAvoidsPackage_ofList rfl rfl) [clearAll, textAvoidsPackage_of_check]

theorem avoidsPackage_unmodifiableView {noun answer : String} {head : Statement}
    (hnoun : noun ∈ ["list", "set", "map"]) :
    (unmodifiableView b p noun head answer).AvoidsPackage ↔
      head.AvoidsPackage ∧ textAvoidsPackage true answer = true := by
  have hline : (Statement.verbatim ["   * Returns an unmodifiable view of the ", noun,
      " that will be returned by"]).AvoidsPackage := by
    simp only [List.mem_cons, List.not_mem_nil, or_false] at hnoun
    rcases hnoun with rfl | rfl | rfl <;> rfl
  simp (disch := exact textAvoidsPackage_ofList rfl rfl)
    [unmodifiableView, hline, textAvoidsPackage_of_check]

theorem avoidsPackage_list : (list b p e).AvoidsPackage := by
  simp (disch := exact textAvoidsPackage_ofList rfl rfl)
    [list, listAdd, listAddArray, listAddAll, listAddDocumentation,
      avoidsPackage_unmodifiableView b p (show "list" ∈ ["list", "set", "map"] by simp),
      textAvoidsPackage_of_check]

theorem avoidsPackage_set : (set b p e).AvoidsPackage := by
  simp (disch := exact textAvoidsPackage_ofList rfl rfl)
    [set, setAdd, setAddArray, setAddAll, setAddDocumentation, setRemove, throwsIfElementNull,
      avoidsPackage_unmodifiableView b p (show "set" ∈ ["list", "set", "map"] by simp),
      textAvoidsPackage_of_check]

theorem avoidsPackage_map (key value : Element) : (map b p key value).AvoidsPackage := by
  have hentry : (throwsIfEntryNull key value).AvoidsPackage := by
    rw [throwsIfEntryNull]
    split
    · exact Code.avoidsPackage_cons.2 ⟨rfl, Code.avoidsPackage_nil⟩
    all_goals
      simp (disch := exact textAvoidsPackage_ofList rfl rfl)
        [throwsIfKeyNull, textAvoidsPackage_of_check]
  simp (disch := exact textAvoidsPackage_ofList rfl rfl)
    [map, mapPut, mapPutAll, mapRemove, hentry, checkKey, checkNotNull, throwsIfKeyNull,
      avoidsPackage_unmodifiableView b p (show "map" ∈ ["list", "set", "map"] by simp),
      textAvoidsPackage_of_check]

end Accessors

/-- The accessors of a property write no package line, whatever its strategy. -/
theorem Property.avoidsPackage_accessors (b : Blueprint) (p : Property) :
    (p.accessors b).AvoidsPackage := by
  rw [accessors]
  cases p.strategy with
  | plain setter hasDefault => exact Accessors.avoidsPackage_plain b p setter
  | optional flavour methods e => exact Accessors.avoidsPackage_optional b p e flavour methods
  | list e => exact Accessors.avoidsPackage_list b p e
  | set e => exact Accessors.avoidsPackage_set b p e
  | map key value => exact Accessors.avoidsPackage_map b p key value

/-! ## Properties -/

namespace Property

variable (p : Property)

@[simp]
theorem avoidsPackage_builderField (level : SourceLevel) :
    (p.builderField level).AvoidsPackage := by
  rw [builderField]
  cases p.strategy <;> cases level <;>
    simp (disch := exact textAvoidsPackage_ofList rfl rfl)
      [elementsField, entriesField, SourceLevel.infersTypeArguments, textAvoidsPackage_of_check]

@[simp]
theorem avoidsPackage_valueField : p.valueField.AvoidsPackage := by
  rw [valueField]
  cases p.strategy <;>
    simp (disch := exact textAvoidsPackage_ofList rfl rfl) [textAvoidsPackage_of_check]

@[simp]
theorem avoidsPackage_assignField (field : Piece) (builder : String) :
    (p.assignField field builder).AvoidsPackage := by
  rw [assignField]
  cases p.strategy <;>
    simp (disch := exact textAvoidsPackage_ofList rfl rfl) [textAvoidsPackage_of_check]

@[simp]
theorem avoidsPackage_getterBody : p.getterBody.AvoidsPackage := by
  rw [getterBody]
  cases p.strategy <;>
    simp (disch := exact textAvoidsPackage_ofList rfl rfl)
      [Accessors.returnOptional, textAvoidsPackage_of_check]

@[simp]
theorem avoidsPackage_mergeValue (value : String) : (p.mergeValue value).AvoidsPackage := by
  rw [mergeValue]
  cases p.strategy <;>
    simp (disch := exact textAvoidsPackage_ofList rfl rfl) [textAvoidsPackage_of_check]

@[simp]
theorem avoidsPackage_mergeBuilder (b : Blueprint) (builder : String) :
    (p.mergeBuilder b builder).AvoidsPackage := by
  rw [mergeBuilder]
  cases p.strategy <;>
    simp (disch := exact textAvoidsPackage_ofList rfl rfl) [textAvoidsPackage_of_check]

@[simp]
theorem avoidsPackage_setFromResult (builder stored : String) :
    (p.setFromResult builder stored).AvoidsPackage := by
  rw [setFromResult]
  cases p.strategy <;>
    simp (disch := exact textAvoidsPackage_ofList rfl rfl) [textAvoidsPackage_of_check]

@[simp]
theorem avoidsPackage_clear (template : String) : (p.clear template).AvoidsPackage := by
  rw [clear]
  cases p.strategy <;>
    simp (disch := exact textAvoidsPackage_ofList rfl rfl) [textAvoidsPackage_of_check]

@[simp]
theorem avoidsPackage_clearAlone : p.clearAlone.AvoidsPackage := by
  rw [clearAlone]
  cases p.strategy <;>
    simp (disch := exact textAvoidsPackage_ofList rfl rfl) [textAvoidsPackage_of_check]

end Property

namespace Blueprint

variable (b : Blueprint)

/-! ## The top of the class -/

theorem avoidsPackage_header (generator : String) : (b.header generator).AvoidsPackage := by
  simp (disch := exact textAvoidsPackage_ofList rfl rfl) [header, textAvoidsPackage_of_check]

theorem avoidsPackage_propertyEnumClass : b.propertyEnumClass.AvoidsPackage := by
  simp (disch := exact textAvoidsPackage_ofList rfl rfl)
    [propertyEnumClass, textAvoidsPackage_of_check]

theorem avoidsPackage_fields (level : SourceLevel) : (b.fields level).AvoidsPackage := by
  simp (disch := exact textAvoidsPackage_ofList rfl rfl) [fields, textAvoidsPackage_of_check]

theorem avoidsPackage_accessors : b.accessors.AvoidsPackage := by
  simp [accessors, Property.avoidsPackage_accessors]

/-! ## Methods -/

theorem avoidsPackage_build : b.build.AvoidsPackage := by
  simp (disch := exact textAvoidsPackage_ofList rfl rfl) [build, textAvoidsPackage_of_check]

theorem avoidsPackage_buildPartial : b.buildPartial.AvoidsPackage := by
  simp (disch := exact textAvoidsPackage_ofList rfl rfl)
    [buildPartial, textAvoidsPackage_of_check]

theorem avoidsPackage_mergeFromValue : b.mergeFromValue.AvoidsPackage := by
  simp (disch := exact textAvoidsPackage_ofList rfl rfl)
    [mergeFromValue, textAvoidsPackage_of_check]

theorem avoidsPackage_mergeFromBuilder : b.mergeFromBuilder.AvoidsPackage := by
  simp (disch := exact textAvoidsPackage_ofList rfl rfl)
    [mergeFromBuilder, textAvoidsPackage_of_check]

theorem avoidsPackage_clear : b.clear.AvoidsPackage := by
  rw [clear]
  cases b.factory <;>
    simp (disch := exact textAvoidsPackage_ofList rfl rfl)
      [clearToTemplate, clearToNothing, textAvoidsPackage_of_check]

/-! ## Nested classes -/

@[simp]
theorem avoidsPackage_getter {p : Property} {body : Code} :
    (getter p body).AvoidsPackage ↔ body.AvoidsPackage := by
  simp (disch := exact textAvoidsPackage_ofList rfl rfl)
    [getter, overriding, textAvoidsPackage_of_check]

@[simp]
theorem avoidsPackage_nestedConstructor {template : String} {c : ClassName} :
    (b.nestedConstructor template c).AvoidsPackage ↔ textAvoidsPackage true template = true := by
  simp (disch := exact textAvoidsPackage_ofList rfl rfl)
    [nestedConstructor, textAvoidsPackage_of_check]

@[simp]
theorem avoidsPackage_equals {c : ClassName} {nullSafe : Property → Bool} {result : Statement} :
    (b.equals c nullSafe result).AvoidsPackage ↔ result.AvoidsPackage := by
  have hdiffers (p : Property) : (differs p (nullSafe p) b.equalsOther).AvoidsPackage := by
    rw [differs]
    split <;> simp (disch := exact textAvoidsPackage_ofList rfl rfl) [textAvoidsPackage_of_check]
  simp (disch := exact textAvoidsPackage_ofList rfl rfl)
    [equals, equalsHead, overriding, compareField, hdiffers, textAvoidsPackage_of_check]

@[simp]
theorem avoidsPackage_toStringMethod {body : Code} :
    (toStringMethod body).AvoidsPackage ↔ body.AvoidsPackage := by
  simp (disch := exact textAvoidsPackage_ofList rfl rfl)
    [toStringMethod, overriding, textAvoidsPackage_of_check]

/-- The words of a property in a text. -/
inductive Labels (b : Blueprint) : List Word → Prop
  | always (p : Property) : b.Labels (labelled p)
  | unlessNull (p : Property) : b.Labels (labelledUnlessNull p)
  | unlessUnset (p : Property) : b.Labels (b.labelledUnlessUnset p)

variable {b} in
theorem avoidsPackage_argumentList {items : List (List Word)} (h : ∀ item ∈ items, b.Labels item) :
    (argumentList items).AvoidsPackage := by
  have hlast {item : List Word} (h : b.Labels item) :
      (Statement.verbatim (joined [["              "], item, [")"]])).AvoidsPackage := by
    cases h <;> rfl
  have hmore {item : List Word} (h : b.Labels item) :
      (Statement.verbatim (joined [["              "], item, [","]])).AvoidsPackage := by
    cases h <;> rfl
  fun_induction argumentList items with
  | case1 => exact Code.avoidsPackage_nil
  | case2 last => exact Code.avoidsPackage_cons.2 ⟨hlast (h last (by simp)), Code.avoidsPackage_nil⟩
  | case3 item rest hrest ih =>
    obtain ⟨hitem, hitems⟩ := List.forall_mem_cons.1 h
    exact Code.avoidsPackage_cons.2 ⟨hmore hitem, ih hitems⟩

@[simp]
theorem avoidsPackage_concatenated (properties : List Property) :
    (concatenated properties).AvoidsPackage := by
  fun_induction concatenated properties with
  | case1 => exact Code.avoidsPackage_nil
  | case2 last => exact Code.avoidsPackage_cons.2 ⟨rfl, Code.avoidsPackage_nil⟩
  | case3 p rest hrest ih => exact Code.avoidsPackage_cons.2 ⟨rfl, ih⟩

variable {b} in
theorem avoidsPackage_joinedText (opening : String) (name closing : Word) {items : List (List Word)}
    (hopening : (Statement.verbatim
      (joined [["      return "], [.text opening, name, closing]])).AvoidsPackage)
    (h : ∀ item ∈ items, b.Labels item) :
    (joinedText [.text opening, name, closing] items).AvoidsPackage := by
  simp (disch := exact textAvoidsPackage_ofList rfl rfl)
    [joinedText, hopening, avoidsPackage_argumentList h, textAvoidsPackage_of_check]

theorem avoidsPackage_valueText : b.valueText.AvoidsPackage := by
  rw [valueText]
  split_ifs
  · exact Code.avoidsPackage_cons.2 ⟨rfl, Code.avoidsPackage_nil⟩
  · refine avoidsPackage_joinedText (b := b) _ _ _ rfl fun item hitem => ?_
    obtain ⟨p, hp, rfl⟩ := List.mem_map.1 hitem
    split_ifs
    · exact .unlessNull p
    · exact .always p
  · refine Code.avoidsPackage_joined_cons.2
      ⟨Code.avoidsPackage_cons.2 ⟨rfl, Code.avoidsPackage_nil⟩, ?_⟩
    simp

theorem avoidsPackage_partialText : b.partialText.AvoidsPackage := by
  rw [partialText]
  split_ifs
  · exact Code.avoidsPackage_cons.2 ⟨rfl, Code.avoidsPackage_nil⟩
  · refine avoidsPackage_joinedText (b := b) _ _ _ rfl fun item hitem => ?_
    obtain ⟨p, hp, rfl⟩ := List.mem_map.1 hitem
    split_ifs
    · exact .unlessUnset p
    · exact .unlessNull p
    · exact .always p

theorem avoidsPackage_valueType : b.valueType.AvoidsPackage := by
  simp (disch := exact textAvoidsPackage_ofList rfl rfl)
    [valueType, valueHead, nestedHead, valueHash, overriding, b.avoidsPackage_valueText,
      textAvoidsPackage_of_check]

theorem avoidsPackage_partialType : b.partialType.AvoidsPackage := by
  have hgetter (p : Property) : (b.partialGetter p).AvoidsPackage := by
    have hthrow : (Statement.verbatim ["        throw new UnsupportedOperationException(\"",
        .name p.name, " not set\");"]).AvoidsPackage := rfl
    simp (disch := exact textAvoidsPackage_ofList rfl rfl)
      [partialGetter, hthrow, textAvoidsPackage_of_check]
  have hadd (p : Property) : (b.addHash p).AvoidsPackage := by
    rw [addHash]
    split <;> simp (disch := exact textAvoidsPackage_ofList rfl rfl) [textAvoidsPackage_of_check]
  have hresult : b.partialEqualsResult.AvoidsPackage := by
    simp (disch := exact textAvoidsPackage_ofList rfl rfl)
      [partialEqualsResult, textAvoidsPackage_of_check]
  simp (disch := exact textAvoidsPackage_ofList rfl rfl)
    [partialType, nestedHead, hgetter, hresult, partialHash, shiftHash, hadd, overriding,
      b.avoidsPackage_partialText, textAvoidsPackage_of_check]

/-! ## The serializer -/

theorem avoidsPackage_serializer : b.serializer.AvoidsPackage := by
  have hread (p : Property) : (readField p b.streamReader).AvoidsPackage := by
    rw [readField]
    split <;> simp (disch := exact textAvoidsPackage_ofList rfl rfl) [textAvoidsPackage_of_check]
  have hwrite (p : Property) : (writeField p).AvoidsPackage := by
    rw [writeField]
    split <;> simp (disch := exact textAvoidsPackage_ofList rfl rfl) [textAvoidsPackage_of_check]
  rw [serializer]
  split
  · exact Code.avoidsPackage_nil
  · simp (disch := exact textAvoidsPackage_ofList rfl rfl)
      [serializerHead, instantiate, restoreField, serialize, hread, hwrite,
        textAvoidsPackage_of_check]

end Blueprint

/-! ## Sections -/

/-- No section writes a package line, whatever the blueprint, the generator and the source level. -/
theorem Section.avoidsPackage_code (generator : String) (level : SourceLevel) (b : Blueprint)
    (s : Section) : Code.AvoidsPackage (s.code generator level b) := by
  cases s with
  | header => exact b.avoidsPackage_header generator
  | propertyEnum => exact b.avoidsPackage_propertyEnumClass
  | fields => exact b.avoidsPackage_fields level
  | accessors => exact b.avoidsPackage_accessors
  | valueType => exact b.avoidsPackage_valueType
  | serializer => exact b.avoidsPackage_serializer
  | build => exact b.avoidsPackage_build
  | mergeFromValue => exact b.avoidsPackage_mergeFromValue
  | mergeFromBuilder => exact b.avoidsPackage_mergeFromBuilder
  | clear => exact b.avoidsPackage_clear
  | partialType => exact b.avoidsPackage_partialType
  | buildPartial => exact b.avoidsPackage_buildPartial
  | footer =>
    simp (disch := exact textAvoidsPackage_ofList rfl rfl) [code, textAvoidsPackage_of_check]

/-! ## The class -/

/-- The words in the header are of the generator's own, or they are its name. -/
theorem Blueprint.notMem_header {b : Blueprint} {generator : String}
    (hgenerator : '\n' ∉ generator.toList) :
    ∀ s ∈ b.header generator, ∀ w, Piece.word w ∈ s.fillings → '\n' ∉ w.render.toList := by
  have hname : '\n' ∉ (Word.name generator).render.toList := hgenerator
  unfold header
  cases b.gwtCompatible <;> cases b.serializable <;>
    simp [joined, Statement.fillings, Word.fillings, hname]

/-- Only the header depends on the name of the generator. -/
theorem Section.notMem_code {b : Blueprint} (hb : b.IsPlain) {generator : String}
    (hgenerator : '\n' ∉ generator.toList) (level : SourceLevel) (part : Section) :
    ∀ s ∈ part.code generator level b, ∀ w, Piece.word w ∈ s.fillings → '\n' ∉ w.render.toList := by
  by_cases hheader : part = .header
  · rw [hheader]
    exact b.notMem_header hgenerator
  · have hsame : part.code generator level b = part.code "" level b := by
      cases part <;> first | rfl | exact absurd rfl hheader
    have htame : Code.IsTame (part.code generator level b) := by
      rw [hsame]
      exact part.isTame_code hb (by decide) level
    intro s hs w hw
    exact Neutral.notMem_lineBreak (htame s hs _ hw)

/-- The text of a class has no package line. -/
theorem Blueprint.IsPlain.avoidsPackage_text {b : Blueprint} (hb : b.IsPlain) {generator : String}
    (hgenerator : '\n' ∉ generator.toList) (level : SourceLevel) (spelling : Spelling) :
    AvoidsPackage (Code.text spelling (b.classCode generator level)) := by
  refine Code.AvoidsPackage.text ?statements (b.fits_classCode generator level) spelling ?fillings
  case statements =>
    unfold classCode
    rw [Code.avoidsPackage_flatMap]
    exact fun part _ => part.avoidsPackage_code generator level b
  case fillings =>
    intro s hs piece hpiece
    obtain ⟨part, -, hpart⟩ := List.mem_flatMap.1 hs
    have hmentions : s.MentionsOnly b.Mentions := part.mentionsOnly_code generator level b s hpart
    have hplain : ∀ c ∈ piece.classes, c.IsPlain := fun c hc =>
      hb.of_mentions (hmentions.fillings piece hpiece c hc)
    cases piece with
    | word w => exact part.notMem_code hb hgenerator level s hpart w hpiece
    | cls c => exact ((Piece.isTame_cls c).render hplain spelling).notMem_lineBreak
    | type t => exact ((Piece.isTame_type t).render hplain spelling).notMem_lineBreak

end ValueBuilder
