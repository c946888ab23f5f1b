import ValueBuilder.Proofs.Builder.NamedClasses
import ValueBuilder.Proofs.Builder.UnsetTracking
import ValueBuilder.Proofs.Source.BracketedLines

/-!
# Plain names in code

If the names and types of a blueprint have no brackets, quotes or line breaks, then the words that
fill the gaps of its code have no effect.  Each of these words is a name of the declaration, or the
generator makes it of such a name or chooses it.

* `Blueprint.IsPlain` and `Property.IsPlain` are about the names, and
  `Blueprint.IsPlain.of_mentions` about the classes of arguments.
* `Blueprint.plain_localName`: underscores in front of a name do no harm.
* `Section.isTame_code` goes through the sections, and `Blueprint.IsPlain.effect_text` is the effect
  of the text of a class.
-/

namespace ValueBuilder

open Java

/-! ## Names of declarations -/

/-- Whether no name and no type of a property has brackets, quotes or line breaks. -/
def Property.IsPlain (p : Property) : Prop :=
  ∀ text ∈ p.constant :: p.texts, Plain text

/-- Whether no name and no type of a blueprint has brackets, quotes or line breaks. -/
structure Blueprint.IsPlain (b : Blueprint) : Prop where
  target : b.target.IsPlain
  builder : b.builder.IsPlain
  generated : b.generated.IsPlain
  properties : ∀ p ∈ b.properties, p.IsPlain

/-- The constants of properties are not among the texts of a blueprint. -/
theorem Blueprint.isPlain_of_texts {generator : String} {b : Blueprint}
    (h : ∀ text ∈ b.texts generator ++ b.properties.map (·.constant), Plain text) : b.IsPlain := by
  obtain ⟨htexts, hconstants⟩ := List.forall_mem_append.1 h
  obtain ⟨hnames, hproperties⟩ := List.forall_mem_append.1 htexts
  constructor
  case target => exact hnames b.target.qualifiedName (by simp)
  case builder => exact hnames b.builder.qualifiedName (by simp)
  case generated => exact hnames b.generated.qualifiedName (by simp)
  case properties =>
    intro p hp
    refine List.forall_mem_cons.2 ⟨hconstants _ (List.mem_map_of_mem hp), ?_⟩
    exact fun text htext => hproperties text (List.mem_flatMap.2 ⟨p, hp, htext⟩)

namespace Property.IsPlain

variable {p : Property} (h : p.IsPlain)

include h

theorem name : Plain p.name :=
  h _ (by simp [texts])

theorem constant : Plain p.constant :=
  h _ (by simp)

/-- What a property puts into its code. -/
theorem names : Neutral p.name ∧ Neutral p.capitalized ∧ Neutral p.constant ∧ Neutral p.getter :=
  ⟨h.name.neutral, (h _ (by simp [texts])).neutral, h.constant.neutral,
    (h _ (by simp [texts])).neutral⟩

theorem type : Plain p.type.display :=
  h _ (by simp [texts])

theorem strategy : ∀ text ∈ p.strategy.texts, Plain text :=
  fun text htext => h text (by simp [texts, htext])

theorem setter {setter : String} {hasDefault : Bool}
    (hstrategy : p.strategy = .plain setter hasDefault) : Plain setter :=
  h.strategy setter (by simp [hstrategy, Strategy.texts])

/-- The methods of an optional property. -/
theorem methods {flavour : OptionalFlavour} {methods : OptionalMethods} {e : Element}
    (hstrategy : p.strategy = .optional flavour methods e) :
    Neutral methods.optionalSetter ∧ Neutral methods.nullableSetter ∧
      Neutral methods.clearMethod :=
  ⟨(h.strategy _ (by simp [hstrategy, Strategy.texts])).neutral,
    (h.strategy _ (by simp [hstrategy, Strategy.texts])).neutral,
    (h.strategy _ (by simp [hstrategy, Strategy.texts])).neutral⟩

end Property.IsPlain

theorem Java.ClassName.isPlain_topLevel {package name : String} (hpackage : Plain package)
    (hname : Plain name) : (topLevel package name).IsPlain := by
  have hpath : (topLevel package name).nestedPath = name := by
    simp [topLevel, ClassName.nestedPath, names]
  rw [IsPlain, qualifiedName, hpath]
  split
  · exact hname
  · exact (hpackage.append (by decide)).append hname

theorem Java.ClassName.IsPlain.nested {c : ClassName} (h : c.IsPlain) {name : String}
    (hname : Plain name) : (c.nested name).IsPlain := by
  rw [IsPlain, qualifiedName_nested]
  exact (Plain.append h (by decide)).append hname

theorem Java.Library.isPlain : ∀ c ∈ classes, c.IsPlain := by
  have hmap : map.IsPlain := ClassName.isPlain_topLevel (by decide) (by decide)
  simp only [classes, List.forall_mem_cons, List.not_mem_nil, false_implies, implies_true, and_true]
  and_intros <;> first
    | exact ClassName.isPlain_topLevel (.of_ofList (id rfl) (by decide))
        (.of_ofList (id rfl) (by decide))
    | exact hmap.nested (by decide)

theorem Java.Primitive.isPlain_boxedClass (p : Primitive) : p.boxedClass.IsPlain := by
  cases p <;> exact ClassName.isPlain_topLevel (.of_ofList (id rfl) (by decide))
    (.of_ofList (id rfl) (by decide))

/-- Types of elements are among the texts of a strategy. -/
theorem Strategy.display_mem_texts {strategy : Strategy} {t : JavaType}
    (h : t ∈ strategy.elementTypes) : t.display ∈ strategy.texts := by
  cases strategy with
  | plain setter hasDefault => cases h
  | optional flavour methods e | list e | set e =>
    rw [List.mem_singleton.1 h]
    simp [texts]
  | map key value =>
    obtain rfl | rfl : t = key.type ∨ t = value.type := by simpa [elementTypes] using h
    · simp [texts]
    · simp [texts]

namespace Blueprint.IsPlain

variable {b : Blueprint} (h : b.IsPlain)

include h

/-- What a blueprint puts into its code. -/
theorem names :
    Neutral b.target.simpleName ∧ Neutral b.builder.simpleName ∧
      Neutral b.valueClass.simpleName ∧ Neutral b.partialClass.simpleName ∧
        Neutral b.propertyEnum.simpleName :=
  ⟨h.target.simpleName.neutral, h.builder.simpleName.neutral,
    (h.generated.nested (by decide)).simpleName.neutral,
    (h.generated.nested (by decide)).simpleName.neutral,
    (h.generated.nested (by decide)).simpleName.neutral⟩

/-- The classes that code names are plain. -/
theorem of_mentions {c : ClassName} (hc : b.Mentions c) : c.IsPlain := by
  cases hc with
  | target => exact h.target
  | builder => exact h.builder
  | generated => exact h.generated
  | member hm =>
    have hnames : ∀ name ∈ memberNames, Plain name := by decide
    obtain rfl | ⟨name, hname, rfl⟩ := eq_builder_or_nested_of_mem_memberClasses hm
    · exact h.builder
    · exact h.generated.nested (hnames name hname)
  | library hc => exact Library.isPlain c hc
  | box p => exact p.isPlain_boxedClass
  | type hp hc => exact JavaType.isPlain_of_display (h.properties _ hp).type _ hc
  | element hp ht hc =>
    exact JavaType.isPlain_of_display
      ((h.properties _ hp).strategy _ (Strategy.display_mem_texts ht)) _ hc

end Blueprint.IsPlain

/-! ## Names of the generator -/

theorem OptionalFlavour.neutral_methods (flavour : OptionalFlavour) :
    Neutral flavour.absentMethod ∧ Neutral flavour.nullableMethod := by
  cases flavour <;> exact ⟨Plain.neutral (by decide), Plain.neutral (by decide)⟩

theorem Java.Primitive.neutral_streamSuffix (p : Primitive) : Neutral p.streamSuffix := by
  cases p <;> exact Plain.neutral (by decide)

namespace Blueprint

variable (b : Blueprint)

theorem plain_localName {preferred : String} (h : Plain preferred) :
    Plain (b.localName preferred) := by
  rw [localName]
  generalize b.properties.map (·.name) = taken
  fun_induction freshName taken preferred with
  | case1 taken name hmem ih => exact ih (Plain.append (by decide) h)
  | case2 taken name hmem => exact h

/-- The local variables of the generated methods. -/
theorem neutral_locals :
    Neutral b.template ∧ Neutral (Property.templateUnset b) ∧ Neutral b.equalsArgument ∧
      Neutral b.equalsOther ∧ Neutral b.hashResult ∧ Neutral b.streamReader ∧
        Neutral b.streamBuilder := by
  and_intros <;> exact (b.plain_localName (by decide)).neutral

end Blueprint

/-! ## Accessors -/

namespace Blueprint

variable {b : Blueprint} {p : Property}

theorem isTame_returnsBuilder (hb : b.IsPlain) : b.returnsBuilder.IsTame := by
  simp [returnsBuilder, builderName, hb.names]

@[simp]
theorem isTame_returnBuilder : b.returnBuilder.IsTame := by
  simp [returnBuilder]

theorem isTame_linkGetter (hp : p.IsPlain) (template : String) :
    (b.linkGetter p template).IsTame := by
  simp [linkGetter, hp.names]

theorem isTame_constantOf (hb : b.IsPlain) (hp : p.IsPlain) :
    (Piece.word (b.constantOf p)).IsTame := by
  have hpath : Plain b.propertyEnum.nestedPath := (hb.generated.nested (by decide)).nestedPath
  exact ((hpath.append (by decide)).append hp.constant).neutral

end Blueprint

namespace Accessors

variable {b : Blueprint} {p : Property} {e : Element} (hb : b.IsPlain) (hp : p.IsPlain)

include hb hp

theorem isTame_plain {setter : String} (hsetter : Plain setter) : (plain b p setter).IsTame := by
  simp [plain, plainSetter, plainGetter, throwsIfArgumentNull, storeArgument, hsetter.neutral,
    hp.names, Blueprint.isTame_returnsBuilder hb, Blueprint.isTame_linkGetter hp,
    Blueprint.isTame_constantOf hb hp]

theorem isTame_optional (flavour : OptionalFlavour) {methods : OptionalMethods}
    (hmethods : Neutral methods.optionalSetter ∧ Neutral methods.nullableSetter ∧
      Neutral methods.clearMethod) : (optional b p flavour methods e).IsTame := by
  simp [optional, optionalSetter, optionalOptionalSetter, optionalNullableSetter, optionalClear,
    optionalGetter, optionalDocumentation, setOrClear, returnOptional, throwsIfArgumentNull,
    storeArgument, hmethods, flavour.neutral_methods, hp.names,
    Blueprint.isTame_returnsBuilder hb, Blueprint.isTame_linkGetter hp]

theorem isTame_addOne : (addOne b p e).IsTame := by
  simp [addOne, addElement, throwsIfElementNull, hp.names, Blueprint.isTame_returnsBuilder hb]

omit hb in
theorem isTame_addEach : (addEach b p e).IsTame := by
  simp [addEach, hp.names]

omit hb in
theorem isTame_addArrayHead : (addArrayHead b p e).IsTame := by
  simp [addArrayHead, hp.names]

omit hb in
theorem isTame_addAllHead : (addAllHead b p e).IsTame := by
  simp [addAllHead, throwsIfContainsNull, hp.names]

theorem isTame_clearAll (description : String) : (clearAll b p description).IsTame := by
  simp [clearAll, hp.names, Blueprint.isTame_returnsBuilder hb, Blueprint.isTame_linkGetter hp]

omit hb in
theorem isTame_unmodifiableView {noun answer : String} {head : Statement} :
    (unmodifiableView b p noun head answer).IsTame ↔ head.IsTame := by
  simp [unmodifiableView, Statement.isTame_verbatim, Word.fillings, hp.names,
    Blueprint.isTame_linkGetter hp]

theorem isTame_list : (list b p e).IsTame := by
  simp [list, listAdd, listAddArray, listAddAll, listAddDocumentation, throwsIfContainsNull,
    isTame_addOne hb hp, isTame_addEach hp, isTame_addArrayHead hp, isTame_addAllHead hp,
    isTame_clearAll hb hp, isTame_unmodifiableView hp, hp.names,
    Blueprint.isTame_returnsBuilder hb, Blueprint.isTame_linkGetter hp]

theorem isTame_set : (set b p e).IsTame := by
  simp [set, setAdd, setAddArray, setAddAll, setRemove, setAddDocumentation, throwsIfContainsNull,
    throwsIfElementNull, isTame_addOne hb hp, isTame_addEach hp, isTame_addArrayHead hp,
    isTame_addAllHead hp, isTame_clearAll hb hp, isTame_unmodifiableView hp, hp.names,
    Blueprint.isTame_returnsBuilder hb, Blueprint.isTame_linkGetter hp]

theorem isTame_map (key value : Element) : (map b p key value).IsTame := by
  have hentry : (throwsIfEntryNull key value).IsTame := by
    rw [throwsIfEntryNull]
    split <;> simp [throwsIfKeyNull, Statement.isTame_verbatim, Word.fillings]
  simp [map, mapPut, mapPutAll, mapRemove, checkKey, checkNotNull, throwsIfKeyNull, hentry,
    isTame_clearAll hb hp, isTame_unmodifiableView hp, hp.names,
    Blueprint.isTame_returnsBuilder hb, Blueprint.isTame_linkGetter hp]

end Accessors

/-! ## Fragments of properties -/

namespace Property

variable {b : Blueprint} {p : Property} (hb : b.IsPlain) (hp : p.IsPlain)

include hp

include hb in
theorem isTame_accessors : (p.accessors b).IsTame := by
  rw [accessors]
  split
  · next setter _ h => exact Accessors.isTame_plain hb hp (hp.setter h)
  · next flavour methods e h => exact Accessors.isTame_optional hb hp flavour (hp.methods h)
  · exact Accessors.isTame_list hb hp
  · exact Accessors.isTame_set hb hp
  · exact Accessors.isTame_map hb hp _ _

theorem isTame_builderField (level : SourceLevel) : (p.builderField level).IsTame := by
  rw [builderField]
  cases p.strategy <;> simp [elementsField, entriesField, hp.names]

theorem isTame_valueField : p.valueField.IsTame := by
  rw [valueField]
  cases p.strategy <;> simp [hp.names]

/-- The field is that of the value itself. -/
theorem isTame_assignField : (p.assignField (Word.field "this" p.name) "builder").IsTame := by
  have hfield : (Piece.word (.field "this" p.name)).IsTame :=
    ((Plain.append (by decide) (by decide)).append hp.name).neutral
  have hbuilder : Neutral "builder" := Plain.neutral (by decide)
  rw [assignField]
  cases p.strategy <;> simp [hfield, hbuilder, hp.names]

theorem isTame_getterBody : p.getterBody.IsTame := by
  rw [getterBody]
  cases p.strategy <;>
    simp [Accessors.returnOptional, OptionalFlavour.neutral_methods, hp.names]

theorem isTame_mergeValue : (p.mergeValue "value").IsTame := by
  have hvalue : Neutral "value" := Plain.neutral (by decide)
  rw [mergeValue]
  split
  · next h => simp [hvalue, (hp.setter h).neutral, hp.names]
  · next h => simp [hvalue, hp.methods h, hp.names]
  · simp [hvalue, hp.names]
  · simp [hvalue, hp.names]
  · simp [hvalue, hp.names]

include hb in
theorem isTame_mergeBuilder : (p.mergeBuilder b b.template).IsTame := by
  rw [mergeBuilder]
  split
  · next h =>
    simp [(hp.setter h).neutral, hp.names, b.neutral_locals, Blueprint.isTame_constantOf hb hp]
  · next h => simp [hp.methods h, hp.names, b.neutral_locals]
  · simp [hp.names, b.neutral_locals]
  · simp [hp.names, b.neutral_locals]
  · simp [hp.names, b.neutral_locals]

theorem isTame_setFromResult : (p.setFromResult b.streamBuilder p.name).IsTame := by
  rw [setFromResult]
  split
  · next h => simp [(hp.setter h).neutral, hp.names, b.neutral_locals]
  · next h => simp [hp.methods h, hp.names, b.neutral_locals]
  · simp [hp.names, b.neutral_locals]
  · simp [hp.names, b.neutral_locals]
  · simp [hp.names, b.neutral_locals]

theorem isTame_clear : (p.clear b.template).IsTame := by
  rw [clear]
  cases p.strategy <;> simp [b.neutral_locals, hp.names]

theorem isTame_clearAlone : p.clearAlone.IsTame := by
  rw [clearAlone]
  cases p.strategy <;> simp [hp.names]

end Property

/-! ## Sections -/

namespace Blueprint

variable {b : Blueprint} (hb : b.IsPlain)

include hb

omit hb in
theorem isTame_header {generator : String} (hgenerator : Plain generator) :
    (b.header generator).IsTame := by
  simp [header, hgenerator.neutral]

theorem isTame_propertyEnumClass : b.propertyEnumClass.IsTame := by
  have hconstant (p : Property) (hp : p ∈ b.required) : Neutral p.constant ∧ Neutral p.name := by
    have hnames := (hb.properties p (List.mem_of_mem_filter hp)).names
    exact ⟨hnames.2.2.1, hnames.1⟩
  simp +contextual [propertyEnumClass, hconstant, hb.names]

theorem isTame_fields (level : SourceLevel) : (b.fields level).IsTame := by
  have hfield (p : Property) (hp : p ∈ b.properties) : (p.builderField level).IsTame :=
    Property.isTame_builderField (hb.properties p hp) level
  simp +contextual [fields, hfield]

theorem isTame_accessors : b.accessors.IsTame := by
  rw [accessors, Code.isTame_flatMap]
  exact fun p hp => Property.isTame_accessors hb (hb.properties p hp)

theorem isTame_build : b.build.IsTame := by
  simp [build, builderName, hb.names]

theorem isTame_buildPartial : b.buildPartial.IsTame := by
  simp [buildPartial, builderName, hb.names]

theorem isTame_mergeFromValue : b.mergeFromValue.IsTame := by
  have hmerge (p : Property) (hp : p ∈ b.properties) : (p.mergeValue "value").IsTame :=
    Property.isTame_mergeValue (hb.properties p hp)
  simp +contextual [mergeFromValue, hmerge]

theorem isTame_mergeFromBuilder : b.mergeFromBuilder.IsTame := by
  have hmerge (p : Property) (hp : p ∈ b.properties) : (p.mergeBuilder b b.template).IsTame :=
    Property.isTame_mergeBuilder hb (hb.properties p hp)
  simp +contextual [mergeFromBuilder, builderName, hmerge, b.neutral_locals, hb.names]

/-- The expression has a pair of parentheses, and the path of a class. -/
theorem isTame_newBuilder (factory : Factory) : (Piece.word (b.newBuilder factory)).IsTame := by
  have hclass : (factory.namedClass b.builder b.target).IsPlain := by
    cases factory
    · exact hb.builder
    · exact hb.target
    · exact hb.target
  have hopening : Neutral factory.opening := by
    cases factory <;> exact Plain.neutral (by decide)
  have hclosing : Neutral factory.closing := by
    cases factory <;> exact ⟨rfl, rfl, fun _ _ => rfl⟩
  exact (hopening.append hclass.nestedPath.neutral).append hclosing

theorem isTame_clear : b.clear.IsTame := by
  have hclear (p : Property) (hp : p ∈ b.properties) : (p.clear b.template).IsTame :=
    Property.isTame_clear (hb.properties p hp)
  have halone (p : Property) (hp : p ∈ b.properties) : p.clearAlone.IsTame :=
    Property.isTame_clearAlone (hb.properties p hp)
  rw [clear]
  cases b.factory <;>
    simp +contextual [clearToTemplate, clearToNothing, hclear, halone, isTame_newBuilder hb,
      b.neutral_locals]

/-! ## Nested classes -/

omit hb in
theorem isTame_nestedHead (template : String) {c : ClassName} (hc : Neutral c.simpleName) :
    (b.nestedHead template c).IsTame := by
  have hinheritance : Neutral b.inheritance := by
    rw [inheritance]
    split <;> exact Plain.neutral (by decide)
  simp [nestedHead, hc, hinheritance]

theorem isTame_nestedConstructor (template : String) {c : ClassName} (hc : Neutral c.simpleName) :
    (b.nestedConstructor template c).IsTame := by
  have hassign (p : Property) (hp : p ∈ b.properties) :
      (p.assignField (Word.field "this" p.name) "builder").IsTame :=
    Property.isTame_assignField (hb.properties p hp)
  simp +contextual [nestedConstructor, hassign, hc]

omit hb in
theorem isTame_getter {p : Property} (hp : p.IsPlain) {body : Code} :
    (getter p body).IsTame ↔ body.IsTame := by
  simp [getter, overriding, hp.names]

theorem isTame_equals (c : ClassName) (nullSafe : Property → Bool) {result : Statement} :
    (b.equals c nullSafe result).IsTame ↔ result.IsTame := by
  have hcompare (p : Property) (hp : p ∈ b.properties) :
      (compareField p (nullSafe p) b.equalsOther).IsTame := by
    have hdiffers : (differs p (nullSafe p) b.equalsOther).IsTame := by
      rw [differs]
      split <;> simp [b.neutral_locals, (hb.properties p hp).names]
    simp [compareField, hdiffers]
  simp +contextual [equals, equalsHead, overriding, hcompare, b.neutral_locals]

omit hb in
theorem isTame_toStringMethod {body : Code} : (toStringMethod body).IsTame ↔ body.IsTame := by
  simp [toStringMethod, overriding]

/-! ## Texts of values -/

omit hb in
theorem isTame_line (opening closing : String) {item : List Word}
    (h : (Statement.verbatim item).IsTame) :
    (Statement.verbatim (joined [[.text opening], item, [.text closing]])).IsTame := by
  simpa [Statement.isTame_verbatim, joined, Word.fillings] using h

omit hb in
theorem isTame_argumentList {items : List (List Word)}
    (h : ∀ item ∈ items, (Statement.verbatim item).IsTame) : (argumentList items).IsTame := by
  fun_induction argumentList items with
  | case1 => exact Code.isTame_nil
  | case2 last =>
    exact Code.isTame_cons.2 ⟨isTame_line _ _ (h last (List.mem_singleton.2 rfl)), Code.isTame_nil⟩
  | case3 item rest hrest ih =>
    obtain ⟨hitem, hitems⟩ := List.forall_mem_cons.1 h
    exact Code.isTame_cons.2 ⟨isTame_line _ _ hitem, ih hitems⟩

omit hb in
theorem isTame_labelled {p : Property} (hp : p.IsPlain) :
    (Statement.verbatim (labelled p)).IsTame := by
  simp [Statement.isTame_verbatim, labelled, Word.fillings, hp.names]

omit hb in
theorem isTame_concatenated {properties : List Property} (h : ∀ p ∈ properties, p.IsPlain) :
    (concatenated properties).IsTame := by
  fun_induction concatenated properties with
  | case1 => exact Code.isTame_nil
  | case2 last =>
    have hlast := isTame_labelled (h last (List.mem_singleton.2 rfl))
    exact Code.isTame_cons.2 ⟨isTame_line _ _ hlast, Code.isTame_nil⟩
  | case3 p rest hrest ih =>
    obtain ⟨hp, hproperties⟩ := List.forall_mem_cons.1 h
    exact Code.isTame_cons.2 ⟨isTame_line _ _ (isTame_labelled hp), ih hproperties⟩

omit hb in
theorem isTame_labelledUnlessNull {p : Property} (hp : p.IsPlain) :
    (Statement.verbatim (labelledUnlessNull p)).IsTame := by
  simp [Statement.isTame_verbatim, labelledUnlessNull, labelled, joined, Word.fillings, hp.names]

theorem isTame_labelledUnlessUnset {p : Property} (hp : p.IsPlain) :
    (Statement.verbatim (b.labelledUnlessUnset p)).IsTame := by
  have hfillings : (b.labelledUnlessUnset p).flatMap Word.fillings =
      [.word (b.constantOf p), .name p.name, .name p.name] := rfl
  simp [Statement.isTame_verbatim, hfillings, isTame_constantOf hb hp, hp.names]

theorem isTame_joinedText (opening closing : String) {items : List (List Word)}
    (h : ∀ item ∈ items, (Statement.verbatim item).IsTame) :
    (joinedText [.text opening, .name b.target.simpleName, .text closing] items).IsTame := by
  have hopening : (Statement.verbatim (joined [["      return "],
      [.text opening, .name b.target.simpleName, .text closing]])).IsTame := by
    simp [Statement.isTame_verbatim, joined, Word.fillings, hb.names]
  simp [joinedText, hopening, isTame_argumentList h]

theorem isTame_valueText : b.valueText.IsTame := by
  rw [valueText]
  split_ifs
  · simp [Statement.isTame_verbatim, Word.fillings, hb.names]
  · refine isTame_joinedText hb _ _ fun item hitem => ?_
    obtain ⟨p, hp, rfl⟩ := List.mem_map.1 hitem
    split_ifs
    · exact isTame_labelledUnlessNull (hb.properties p hp)
    · exact isTame_labelled (hb.properties p hp)
  · simp [Statement.isTame_verbatim, Word.fillings, isTame_concatenated hb.properties, hb.names]

theorem isTame_partialText : b.partialText.IsTame := by
  rw [partialText]
  split_ifs
  · simp [Statement.isTame_verbatim, Word.fillings, hb.names]
  · refine isTame_joinedText hb _ _ fun item hitem => ?_
    obtain ⟨p, hp, rfl⟩ := List.mem_map.1 hitem
    split_ifs
    · exact isTame_labelledUnlessUnset hb (hb.properties p hp)
    · exact isTame_labelledUnlessNull (hb.properties p hp)
    · exact isTame_labelled (hb.properties p hp)

/-! ## Classes of values -/

theorem isTame_valueHash : b.valueHash.IsTame := by
  have hnames : Plain b.fieldNames :=
    Plain.intercalate (by decide) (List.forall_mem_map.2 fun p hp => (hb.properties p hp).name)
  simp [valueHash, overriding, hnames.neutral]

theorem isTame_valueType : b.valueType.IsTame := by
  have hhead : b.valueHead.IsTame := by
    simp [valueHead, isTame_nestedHead, hb.names]
  have hfield (p : Property) (hp : p ∈ b.properties) : p.valueField.IsTame :=
    Property.isTame_valueField (hb.properties p hp)
  have hgetter (p : Property) (hp : p ∈ b.properties) : (getter p p.getterBody).IsTame :=
    (isTame_getter (hb.properties p hp)).2 (Property.isTame_getterBody (hb.properties p hp))
  simp +contextual [valueType, hhead, hfield, hgetter, isTame_nestedConstructor hb,
    isTame_equals hb, isTame_valueHash hb, isTame_toStringMethod, isTame_valueText hb, hb.names]

omit hb in
theorem isTame_partialGetter {p : Property} (hp : p.IsPlain) : (b.partialGetter p).IsTame := by
  rw [partialGetter, isTame_getter hp]
  simp [Statement.isTame_verbatim, Word.fillings, Property.isTame_getterBody hp, hp.names]

theorem isTame_partialHash : b.partialHash.IsTame := by
  have hadd (p : Property) (hp : p ∈ b.properties) : (b.addHash p).IsTame := by
    rw [addHash]
    split <;> simp [b.neutral_locals, (hb.properties p hp).names]
  simp +contextual [partialHash, shiftHash, overriding, hadd, b.neutral_locals]

theorem isTame_partialType : b.partialType.IsTame := by
  have hfield (p : Property) (hp : p ∈ b.properties) : p.valueField.IsTame :=
    Property.isTame_valueField (hb.properties p hp)
  have hgetter (p : Property) (hp : p ∈ b.properties) : (b.partialGetter p).IsTame :=
    isTame_partialGetter (hb.properties p hp)
  have hresult : b.partialEqualsResult.IsTame := by
    simp [partialEqualsResult, b.neutral_locals]
  simp +contextual [partialType, hfield, hgetter, hresult, isTame_nestedHead,
    isTame_nestedConstructor hb, isTame_equals hb, isTame_partialHash hb, isTame_toStringMethod,
    isTame_partialText hb, hb.names]

/-! ## The serializer -/

theorem isTame_serializer : b.serializer.IsTame := by
  have hrestore (p : Property) (hp : p ∈ b.properties) : (b.restoreField p).IsTame := by
    have hread : (readField p b.streamReader).IsTame := by
      rw [readField]
      split <;>
        simp [Primitive.neutral_streamSuffix, b.neutral_locals, (hb.properties p hp).names]
    simp [restoreField, hread, Property.isTame_setFromResult (hb.properties p hp)]
  have hwrite (p : Property) (hp : p ∈ b.properties) : (writeField p).IsTame := by
    rw [writeField]
    split <;> simp [Primitive.neutral_streamSuffix, (hb.properties p hp).names]
  rw [serializer]
  split
  · exact Code.isTame_nil
  · simp +contextual [serializerHead, instantiate, serialize, hrestore, hwrite,
      isTame_newBuilder hb, b.neutral_locals, hb.names]

end Blueprint

/-! ## The class -/

theorem Section.isTame_code {b : Blueprint} (hb : b.IsPlain) {generator : String}
    (hgenerator : Plain generator) (level : SourceLevel) (s : Section) :
    Code.IsTame (s.code generator level b) := by
  cases s with
  | header => exact Blueprint.isTame_header hgenerator
  | propertyEnum => exact Blueprint.isTame_propertyEnumClass hb
  | fields => exact Blueprint.isTame_fields hb level
  | accessors => exact Blueprint.isTame_accessors hb
  | valueType => exact Blueprint.isTame_valueType hb
  | serializer => exact Blueprint.isTame_serializer hb
  | build => exact Blueprint.isTame_build hb
  | mergeFromValue => exact Blueprint.isTame_mergeFromValue hb
  | mergeFromBuilder => exact Blueprint.isTame_mergeFromBuilder hb
  | clear => exact Blueprint.isTame_clear hb
  | partialType => exact Blueprint.isTame_partialType hb
  | buildPartial => exact Blueprint.isTame_buildPartial hb
  | footer => simp [code]

theorem Statement.MentionsOnly.fillings {kind : ClassName → Prop} {s : Statement}
    (h : s.MentionsOnly kind) : ∀ piece ∈ s.fillings, piece.MentionsOnly kind := by
  cases s with
  | template text args => exact h
  | verbatim words =>
    intro piece hpiece
    obtain ⟨w, -, hw⟩ := List.mem_flatMap.1 hpiece
    cases w <;> simp_all [Word.fillings]

/-- The names of a plain blueprint have no effect in the text of a class. -/
theorem Blueprint.IsPlain.effect_text {b : Blueprint} (hb : b.IsPlain) {generator : String}
    (hgenerator : Plain generator) (level : SourceLevel) (spelling : Spelling) :
    Effect.ofChars (Code.text spelling (b.classCode generator level)).toList =
      Code.effect (b.classCode generator level) := by
  refine Code.effect_text spelling (b.fits_classCode generator level) ?_ ?_
  · rw [classCode, Code.isTame_flatMap]
    exact fun s _ => s.isTame_code hb hgenerator level
  · intro s hs piece hpiece c hc
    obtain ⟨part, -, hpart⟩ := List.mem_flatMap.1 hs
    have hmentions : s.MentionsOnly b.Mentions := part.mentionsOnly_code generator level b s hpart
    exact hb.of_mentions (hmentions.fillings piece hpiece c hc)

end ValueBuilder
