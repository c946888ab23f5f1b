import ValueBuilder.Builder.Section
import ValueBuilder.Proofs.Builder.SilentAccessors

/-!
# Sections without a trace of the field

If no property of a blueprint is required, then its code has no trace of the field with the
properties that are still unset, and none of its lines mentions an enum
(`Section.isSilent_code`).  What one property contributes is checked for each strategy first.
-/

namespace ValueBuilder

open Java

/-! ## Properties -/

namespace Property

variable {p : Property} (hp : p.IsSilent)

include hp

theorem isSilent_storedType : p.storedType.IsSilent := by
  have hstrategy := hp.strategy
  rw [storedType]
  cases hcase : p.strategy with
  | optional flavour methods e =>
    rw [hcase] at hstrategy
    exact hstrategy.2
  | _ => exact hp.type

theorem isSilent_builderField (level : SourceLevel) : (p.builderField level).IsSilent := by
  have hstrategy := hp.strategy
  rw [builderField]
  cases hcase : p.strategy <;> cases level <;> rw [hcase, Strategy.IsSilent] at hstrategy <;>
    simp (disch := exact Shape.passes_ofList rfl rfl)
      [elementsField, entriesField, SourceLevel.infersTypeArguments, hstrategy, hp.names,
        Library.isSilent, Shape.passes_of_check]

theorem isSilent_valueField : p.valueField.IsSilent := by
  have hstrategy := hp.strategy
  have hstored := isSilent_storedType hp
  rw [valueField]
  cases hcase : p.strategy <;> rw [hcase, Strategy.IsSilent] at hstrategy <;>
    simp (disch := exact Shape.passes_ofList rfl rfl)
      [hstrategy, hstored, hp.names, Shape.passes_of_check]

theorem isSilent_assignField {builder : String} (hbuilder : Silent builder.toList) :
    (p.assignField (Word.field "this" p.name) builder).IsSilent := by
  have hfield : (Piece.word (.field "this" p.name)).IsSilent := by
    have hrender : (Word.field "this" p.name).render = "this." ++ p.name := by
      simp [Word.render]
    rw [Piece.IsSilent, hrender, String.toList_append]
    exact Silent.append_of_notMem (by decide) hp.name
  rw [assignField]
  cases p.strategy <;>
    simp (disch := exact Shape.passes_ofList rfl rfl)
      [hfield, hbuilder, hp.names, Library.isSilent, Shape.passes_of_check]

theorem isSilent_getterBody : p.getterBody.IsSilent := by
  rw [getterBody]
  cases p.strategy <;>
    simp (disch := exact Shape.passes_ofList rfl rfl)
      [Accessors.isSilent_returnOptional hp, hp.names, Shape.passes_of_check]

theorem isSilent_mergeValue {value : String} (hvalue : Silent value.toList) :
    (p.mergeValue value).IsSilent := by
  have hstrategy := hp.strategy
  rw [mergeValue]
  cases hcase : p.strategy <;> rw [hcase, Strategy.IsSilent] at hstrategy
  case optional flavour methods e =>
    have hset := hstrategy.1.optionalSetter
    simp (disch := exact Shape.passes_ofList rfl rfl)
      [hset, hvalue, hp.names, Shape.passes_of_check]
  all_goals
    simp (disch := exact Shape.passes_ofList rfl rfl)
      [hstrategy, hvalue, hp.names, Shape.passes_of_check]

/-- Another builder is merged without a look at what is unset there. -/
theorem isSilent_mergeBuilder {b : Blueprint} (hb : b.IsSilent) (h : p.tracksUnset = false)
    {builder : String} (hbuilder : Silent builder.toList) : (p.mergeBuilder b builder).IsSilent := by
  have hstrategy := hp.strategy
  rw [mergeBuilder]
  cases hcase : p.strategy <;> rw [hcase, Strategy.IsSilent] at hstrategy
  case optional flavour methods e =>
    have hset := hstrategy.1.optionalSetter
    simp (disch := exact Shape.passes_ofList rfl rfl)
      [hset, hbuilder, hp.names, Shape.passes_of_check]
  all_goals
    simp (disch := exact Shape.passes_ofList rfl rfl)
      [h, hstrategy, hbuilder, hb.names, hp.names, Shape.passes_of_check]

theorem isSilent_setFromResult {builder stored : String} (hbuilder : Silent builder.toList)
    (hstored : Silent stored.toList) : (p.setFromResult builder stored).IsSilent := by
  have hstrategy := hp.strategy
  rw [setFromResult]
  cases hcase : p.strategy <;> rw [hcase, Strategy.IsSilent] at hstrategy
  case optional flavour methods e =>
    have hset := hstrategy.1.nullableSetter
    simp (disch := exact Shape.passes_ofList rfl rfl)
      [hset, hbuilder, hstored, Shape.passes_of_check]
  all_goals
    simp (disch := exact Shape.passes_ofList rfl rfl)
      [hstrategy, hbuilder, hstored, hp.names, Shape.passes_of_check]

theorem isSilent_clear {template : String} (htemplate : Silent template.toList) :
    (p.clear template).IsSilent := by
  rw [clear]
  cases p.strategy <;>
    simp (disch := exact Shape.passes_ofList rfl rfl)
      [htemplate, hp.names, Shape.passes_of_check]

theorem isSilent_clearAlone : p.clearAlone.IsSilent := by
  rw [clearAlone]
  cases p.strategy <;>
    simp (disch := exact Shape.passes_ofList rfl rfl) [hp.names, Shape.passes_of_check]

end Property

namespace Blueprint

variable {b : Blueprint} (hb : b.IsSilent)

/-! ## Local variables -/

theorem silent_template (b : Blueprint) : Silent b.template.toList :=
  b.silent_localName (by decide) (by decide)

theorem silent_streamReader (b : Blueprint) : Silent b.streamReader.toList :=
  b.silent_localName (by decide) (by decide)

theorem silent_streamBuilder (b : Blueprint) : Silent b.streamBuilder.toList :=
  b.silent_localName (by decide) (by decide)

theorem silent_equalsArgument (b : Blueprint) : Silent b.equalsArgument.toList :=
  b.silent_localName (by decide) (by decide)

theorem silent_equalsOther (b : Blueprint) : Silent b.equalsOther.toList :=
  b.silent_localName (by decide) (by decide)

theorem silent_hashResult (b : Blueprint) : Silent b.hashResult.toList :=
  b.silent_localName (by decide) (by decide)

include hb in
theorem isSilent_newBuilder (factory : Factory) : (Piece.word (b.newBuilder factory)).IsSilent := by
  have hpath : Silent (factory.namedClass b.builder b.target).nestedPath.toList := by
    cases factory with
    | constructor => exact hb.builder.nestedPath
    | builderMethod | newBuilderMethod => exact hb.target.nestedPath
  have hopening : '_' ∉ factory.opening.toList := by cases factory <;> decide
  have hclosing : Silent factory.closing.toList := by cases factory <;> decide
  have hhead : startsApart factory.closing.toList = true := by cases factory <;> decide
  rw [Piece.IsSilent, newBuilder, Word.render, String.append_assoc, String.toList_append,
    String.toList_append]
  exact Silent.append_of_notMem hopening (hpath.append hclosing hhead)

/-! ## The top of the class -/

include hb

theorem isSilent_header {generator : String} (hgenerator : Silent generator.toList) :
    (b.header generator).IsSilent := by
  simp (disch := exact Shape.passes_ofList rfl rfl)
    [header, hgenerator, hb.names, Library.isSilent, Shape.passes_of_check]

theorem isSilent_fields (hrequired : b.hasRequired = false) (level : SourceLevel) :
    (b.fields level).IsSilent := by
  have hproperties : Code.IsSilent (b.properties.flatMap (·.builderField level)) :=
    Code.isSilent_flatMap.2 fun p hp =>
      Property.isSilent_builderField (hb.properties p hp) level
  simp (disch := exact Shape.passes_ofList rfl rfl)
    [fields, hrequired, hproperties, Shape.passes_of_check]

theorem isSilent_accessors (hunset : ∀ p ∈ b.properties, p.tracksUnset = false) :
    b.accessors.IsSilent :=
  Code.isSilent_flatMap.2 fun p hp =>
    Property.isSilent_accessors hb (hb.properties p hp) (hunset p hp)

/-! ## Methods -/

theorem isSilent_build (hrequired : b.hasRequired = false) : b.build.IsSilent := by
  have hvalue : b.valueClass.IsSilent := hb.generated.nested (by decide)
  simp (disch := exact Shape.passes_ofList rfl rfl)
    [build, builderName, hrequired, hvalue, hb.names, Shape.passes_of_check]

theorem isSilent_buildPartial (hrequired : b.hasRequired = false) : b.buildPartial.IsSilent := by
  have hpartial : b.partialClass.IsSilent := hb.generated.nested (by decide)
  simp (disch := exact Shape.passes_ofList rfl rfl)
    [buildPartial, builderName, hrequired, hpartial, hb.names, Library.isSilent,
      Shape.passes_of_check]

theorem isSilent_mergeFromValue : b.mergeFromValue.IsSilent := by
  have hproperties : Code.IsSilent (b.properties.flatMap (·.mergeValue "value")) :=
    Code.isSilent_flatMap.2 fun p hp =>
      Property.isSilent_mergeValue (hb.properties p hp) (by decide)
  simp (disch := exact Shape.passes_ofList rfl rfl)
    [mergeFromValue, hproperties, Accessors.isSilent_returnBuilder hb, hb.names,
      Shape.passes_of_check]

theorem isSilent_mergeFromBuilder (hrequired : b.hasRequired = false)
    (hunset : ∀ p ∈ b.properties, p.tracksUnset = false) : b.mergeFromBuilder.IsSilent := by
  have hproperties :
      Code.IsSilent (b.properties.flatMap fun p => p.mergeBuilder b b.template) :=
    Code.isSilent_flatMap.2 fun p hp =>
      Property.isSilent_mergeBuilder (hb.properties p hp) hb (hunset p hp) b.silent_template
  simp (disch := exact Shape.passes_ofList rfl rfl)
    [mergeFromBuilder, builderName, hrequired, hproperties, Accessors.isSilent_returnBuilder hb,
      b.silent_template, hb.names, Shape.passes_of_check]

theorem isSilent_clear (hrequired : b.hasRequired = false) : b.clear.IsSilent := by
  have hproperties : Code.IsSilent (b.properties.flatMap (·.clear b.template)) :=
    Code.isSilent_flatMap.2 fun p hp =>
      Property.isSilent_clear (hb.properties p hp) b.silent_template
  have halone : Code.IsSilent (b.properties.flatMap Property.clearAlone) :=
    Code.isSilent_flatMap.2 fun p hp => Property.isSilent_clearAlone (hb.properties p hp)
  rw [clear]
  cases b.factory with
  | none =>
    simp (disch := exact Shape.passes_ofList rfl rfl)
      [clearToNothing, hrequired, halone, Accessors.isSilent_returnBuilder hb, hb.names,
        Shape.passes_of_check]
  | some factory =>
    simp (disch := exact Shape.passes_ofList rfl rfl)
      [clearToTemplate, hrequired, hproperties, Accessors.isSilent_returnBuilder hb,
        b.silent_template, isSilent_newBuilder hb, hb.names, Shape.passes_of_check]

/-! ## Nested classes -/

omit hb in
theorem isSilent_overriding : overriding.IsSilent := by
  simp (disch := exact Shape.passes_ofList rfl rfl) [overriding, Shape.passes_of_check]

theorem isSilent_nestedHead {template : String} {c : ClassName} (hc : c.IsSilent) :
    (b.nestedHead template c).IsSilent ↔ Shape.passes true template = true := by
  have hinheritance : Silent b.inheritance.toList := by
    rw [inheritance]
    split <;> decide
  simp [nestedHead, hc.simpleName, hinheritance, hb.names]

theorem isSilent_nestedConstructor {template : String} {c : ClassName} (hc : c.IsSilent) :
    (b.nestedConstructor template c).IsSilent ↔ Shape.passes true template = true := by
  have hproperties : Code.IsSilent
      (b.properties.flatMap fun p => p.assignField (Word.field "this" p.name) "builder") :=
    Code.isSilent_flatMap.2 fun p hp =>
      Property.isSilent_assignField (hb.properties p hp) (by decide)
  simp (disch := exact Shape.passes_ofList rfl rfl)
    [nestedConstructor, hproperties, hc.simpleName, hb.names, Shape.passes_of_check]

omit hb in
theorem isSilent_getter {p : Property} (hp : p.IsSilent) {body : Code} :
    (getter p body).IsSilent ↔ body.IsSilent := by
  simp (disch := exact Shape.passes_ofList rfl rfl)
    [getter, isSilent_overriding, hp.names, Shape.passes_of_check]

omit hb in
theorem isSilent_compareField {p : Property} (hp : p.IsSilent) (nullSafe : Bool) {other : String}
    (hother : Silent other.toList) : (compareField p nullSafe other).IsSilent := by
  have hboxed (primitive : Primitive) : primitive.boxedClass.IsSilent := by
    cases primitive <;> exact ClassName.isSilent_topLevel (by decide) (by decide)
  have hdiffers : (differs p nullSafe other).IsSilent := by
    rw [differs]
    split <;>
      simp (disch := exact Shape.passes_ofList rfl rfl)
        [hboxed, hother, hp.names, Shape.passes_of_check]
  simp (disch := exact Shape.passes_ofList rfl rfl) [compareField, hdiffers, Shape.passes_of_check]

theorem isSilent_equals {c : ClassName} (hc : c.IsSilent) {nullSafe : Property → Bool}
    {result : Statement} : (b.equals c nullSafe result).IsSilent ↔ result.IsSilent := by
  have hproperties : Code.IsSilent
      (b.properties.flatMap fun p => compareField p (nullSafe p) b.equalsOther) :=
    Code.isSilent_flatMap.2 fun p hp =>
      isSilent_compareField (hb.properties p hp) _ b.silent_equalsOther
  simp (disch := exact Shape.passes_ofList rfl rfl)
    [equals, equalsHead, isSilent_overriding, hproperties, hc, b.silent_equalsArgument,
      b.silent_equalsOther, Shape.passes_of_check]

omit hb in
theorem isSilent_toStringMethod {body : Code} : (toStringMethod body).IsSilent ↔ body.IsSilent := by
  simp (disch := exact Shape.passes_ofList rfl rfl)
    [toStringMethod, isSilent_overriding, Shape.passes_of_check]

/-- The words of a property in a text, as they stand if the property is not required. -/
inductive IsLabel : List Word → Prop
  | plain {p : Property} : p.IsSilent → IsLabel (labelled p)
  | nullable {p : Property} : p.IsSilent → IsLabel (labelledUnlessNull p)

omit hb in
theorem IsLabel.fillings {item : List Word} (h : IsLabel item) (opening closing : String) :
    ∀ piece ∈ (Statement.verbatim (joined [[.text opening], item, [.text closing]])).fillings,
      piece.IsSilent := by
  cases h with
  | plain hp => simp [Statement.fillings, joined, labelled, Word.fillings, hp.names]
  | nullable hp =>
    simp [Statement.fillings, joined, labelledUnlessNull, labelled, Word.fillings, hp.names]

omit hb in
theorem isSilent_argumentList {items : List (List Word)} (h : ∀ item ∈ items, IsLabel item) :
    (argumentList items).IsSilent := by
  have hlast {item : List Word} (h : IsLabel item) :
      (Statement.verbatim (joined [["              "], item, [")"]])).IsSilent :=
    ⟨by cases h <;> rfl, h.fillings _ _⟩
  have hmore {item : List Word} (h : IsLabel item) :
      (Statement.verbatim (joined [["              "], item, [","]])).IsSilent :=
    ⟨by cases h <;> rfl, h.fillings _ _⟩
  fun_induction argumentList items with
  | case1 => exact Code.isSilent_nil
  | case2 last => exact Code.isSilent_cons.2 ⟨hlast (h last (by simp)), Code.isSilent_nil⟩
  | case3 item rest hrest ih =>
    obtain ⟨hitem, hitems⟩ := List.forall_mem_cons.1 h
    exact Code.isSilent_cons.2 ⟨hmore hitem, ih hitems⟩

omit hb in
theorem isSilent_concatenated {properties : List Property} (h : ∀ p ∈ properties, p.IsSilent) :
    (concatenated properties).IsSilent := by
  have hlast {p : Property} (hp : p.IsSilent) :
      (Statement.verbatim (joined [["          + "], labelled p, [" + \"\x7d\";"]])).IsSilent :=
    ⟨rfl, (IsLabel.plain hp).fillings _ _⟩
  have hmore {p : Property} (hp : p.IsSilent) :
      (Statement.verbatim (joined [["          + "], labelled p, [" + \", \""]])).IsSilent :=
    ⟨rfl, (IsLabel.plain hp).fillings _ _⟩
  fun_induction concatenated properties with
  | case1 => exact Code.isSilent_nil
  | case2 last => exact Code.isSilent_cons.2 ⟨hlast (h last (by simp)), Code.isSilent_nil⟩
  | case3 p rest hrest ih =>
    obtain ⟨hp, hproperties⟩ := List.forall_mem_cons.1 h
    exact Code.isSilent_cons.2 ⟨hmore hp, ih hproperties⟩

omit hb in
/-- A text that begins with the name of the target. -/
theorem isSilent_joinedText {opening : List Word} {items : List (List Word)}
    (hopening : (Statement.verbatim (joined [["      return "], opening])).IsSilent)
    (h : ∀ item ∈ items, IsLabel item) : (joinedText opening items).IsSilent := by
  simp (disch := exact Shape.passes_ofList rfl rfl)
    [joinedText, hopening, isSilent_argumentList h, Shape.passes_of_check]

theorem isSilent_valueText : b.valueText.IsSilent := by
  have hname := hb.target.simpleName
  rw [valueText]
  split
  · refine Code.isSilent_cons.2 ⟨⟨rfl, ?_⟩, Code.isSilent_nil⟩
    simp [Statement.fillings, Word.fillings, hname]
  · split
    · refine isSilent_joinedText ⟨rfl, ?_⟩ ?_
      · simp [Statement.fillings, joined, Word.fillings, hname]
      · intro item hitem
        obtain ⟨p, hp, rfl⟩ := List.mem_map.1 hitem
        split
        · exact .nullable (hb.properties p hp)
        · exact .plain (hb.properties p hp)
    · refine Code.isSilent_joined_cons.2 ⟨Code.isSilent_cons.2 ⟨⟨rfl, ?_⟩, Code.isSilent_nil⟩, ?_⟩
      · simp [Statement.fillings, Word.fillings, hname]
      · simp [isSilent_concatenated hb.properties]

omit hb in
/-- Names with commas between them. -/
theorem silent_intercalate {names : List String} (h : ∀ name ∈ names, Silent name.toList) :
    Silent (", ".intercalate names).toList := by
  induction names with
  | nil => exact Silent.nil
  | cons name names ih =>
    obtain ⟨hname, hnames⟩ := List.forall_mem_cons.1 h
    cases names with
    | nil => simpa using hname
    | cons next names =>
      rw [String.intercalate_cons_cons, String.append_assoc, String.toList_append,
        String.toList_append]
      exact hname.append (Silent.append_of_notMem (by decide) (ih hnames)) rfl

theorem isSilent_valueHash : b.valueHash.IsSilent := by
  have hnames : Silent b.fieldNames.toList := by
    refine silent_intercalate fun name hname => ?_
    obtain ⟨p, hp, rfl⟩ := List.mem_map.1 hname
    exact (hb.properties p hp).name
  simp (disch := exact Shape.passes_ofList rfl rfl)
    [valueHash, isSilent_overriding, hnames, Library.isSilent, Shape.passes_of_check]

theorem isSilent_valueType : b.valueType.IsSilent := by
  have hvalue : b.valueClass.IsSilent := hb.generated.nested (by decide)
  have hhead : b.valueHead.IsSilent := by
    simp (disch := exact Shape.passes_ofList rfl rfl)
      [valueHead, isSilent_nestedHead hb hvalue, Library.isSilent, Shape.passes_of_check]
  have hfields : Code.IsSilent (b.properties.flatMap Property.valueField) :=
    Code.isSilent_flatMap.2 fun p hp => Property.isSilent_valueField (hb.properties p hp)
  have hgetters : Code.IsSilent (b.properties.flatMap fun p => getter p p.getterBody) :=
    Code.isSilent_flatMap.2 fun p hp =>
      (isSilent_getter (hb.properties p hp)).2 (Property.isSilent_getterBody (hb.properties p hp))
  simp (disch := exact Shape.passes_ofList rfl rfl)
    [valueType, hhead, hfields, hgetters, isSilent_nestedConstructor hb hvalue,
      isSilent_equals hb hvalue, isSilent_valueHash hb, isSilent_toStringMethod,
      isSilent_valueText hb, Shape.passes_of_check]

theorem isSilent_partialHash (hrequired : b.hasRequired = false) : b.partialHash.IsSilent := by
  have hboxed (primitive : Primitive) : primitive.boxedClass.IsSilent := by
    cases primitive <;> exact ClassName.isSilent_topLevel (by decide) (by decide)
  have hshift : b.shiftHash.IsSilent := by
    simp (disch := exact Shape.passes_ofList rfl rfl)
      [shiftHash, b.silent_hashResult, Shape.passes_of_check]
  have hadd {p : Property} (hp : p.IsSilent) : (b.addHash p).IsSilent := by
    rw [addHash]
    split <;>
      simp (disch := exact Shape.passes_ofList rfl rfl)
        [hboxed, b.silent_hashResult, hp.names, Shape.passes_of_check]
  have hproperties : Code.IsSilent (b.properties.flatMap fun p => [b.shiftHash, b.addHash p]) :=
    Code.isSilent_flatMap.2 fun p hp => by simp [hshift, hadd (hb.properties p hp)]
  simp (disch := exact Shape.passes_ofList rfl rfl)
    [partialHash, hrequired, isSilent_overriding, hproperties, b.silent_hashResult,
      Shape.passes_of_check]

theorem isSilent_partialText (hunset : ∀ p ∈ b.properties, p.tracksUnset = false) :
    b.partialText.IsSilent := by
  have hname := hb.target.simpleName
  rw [partialText]
  split
  · refine Code.isSilent_cons.2 ⟨⟨rfl, ?_⟩, Code.isSilent_nil⟩
    simp [Statement.fillings, Word.fillings, hname]
  · refine isSilent_joinedText ⟨rfl, ?_⟩ ?_
    · simp [Statement.fillings, joined, Word.fillings, hname]
    · intro item hitem
      obtain ⟨p, hp, rfl⟩ := List.mem_map.1 hitem
      rw [hunset p hp, if_neg (by simp)]
      split
      · exact .nullable (hb.properties p hp)
      · exact .plain (hb.properties p hp)

theorem isSilent_partialType (hrequired : b.hasRequired = false)
    (hunset : ∀ p ∈ b.properties, p.tracksUnset = false) : b.partialType.IsSilent := by
  have hpartial : b.partialClass.IsSilent := hb.generated.nested (by decide)
  have hfields : Code.IsSilent (b.properties.flatMap Property.valueField) :=
    Code.isSilent_flatMap.2 fun p hp => Property.isSilent_valueField (hb.properties p hp)
  have hgetters : Code.IsSilent (b.properties.flatMap b.partialGetter) := by
    refine Code.isSilent_flatMap.2 fun p hp => ?_
    rw [partialGetter, isSilent_getter (hb.properties p hp), hunset p hp]
    simp [Property.isSilent_getterBody (hb.properties p hp)]
  have hresult : b.partialEqualsResult.IsSilent := by
    simp (disch := exact Shape.passes_ofList rfl rfl)
      [partialEqualsResult, hrequired, Shape.passes_of_check]
  simp (disch := exact Shape.passes_ofList rfl rfl)
    [partialType, hrequired, hfields, hgetters, hresult, isSilent_nestedHead hb hpartial,
      isSilent_nestedConstructor hb hpartial, isSilent_equals hb hpartial,
      isSilent_partialHash hb hrequired, isSilent_toStringMethod, isSilent_partialText hb hunset,
      Shape.passes_of_check]

/-! ## The serializer -/

theorem isSilent_instantiate (factory : Factory) : (b.instantiate factory).IsSilent := by
  have hvalue : b.valueClass.IsSilent := hb.generated.nested (by decide)
  have hread {p : Property} (hp : p.IsSilent) : (readField p b.streamReader).IsSilent := by
    have hsuffix (primitive : Primitive) : Silent primitive.streamSuffix.toList := by
      cases primitive <;> decide
    rw [readField]
    split <;>
      simp (disch := exact Shape.passes_ofList rfl rfl)
        [hsuffix, Property.isSilent_storedType hp, b.silent_streamReader, hp.names,
          Shape.passes_of_check]
  have hproperties : Code.IsSilent (b.properties.flatMap b.restoreField) := by
    refine Code.isSilent_flatMap.2 fun p hp => ?_
    have hp := hb.properties p hp
    simp (disch := exact Shape.passes_ofList rfl rfl)
      [restoreField, hread hp, Property.isSilent_setFromResult hp b.silent_streamBuilder hp.name,
        Shape.passes_of_check]
  simp (disch := exact Shape.passes_ofList rfl rfl)
    [instantiate, hproperties, hvalue, isSilent_newBuilder hb, b.silent_streamReader,
      b.silent_streamBuilder, Library.isSilent, hb.names, Shape.passes_of_check]

theorem isSilent_serialize : b.serialize.IsSilent := by
  have hvalue : b.valueClass.IsSilent := hb.generated.nested (by decide)
  have hproperties : Code.IsSilent (b.properties.map writeField) := by
    refine Code.isSilent_map.2 fun p hp => ?_
    have hp := hb.properties p hp
    have hsuffix (primitive : Primitive) : Silent primitive.streamSuffix.toList := by
      cases primitive <;> decide
    rw [writeField]
    split <;>
      simp (disch := exact Shape.passes_ofList rfl rfl) [hsuffix, hp.names, Shape.passes_of_check]
  simp (disch := exact Shape.passes_ofList rfl rfl)
    [serialize, hproperties, hvalue, Library.isSilent, Shape.passes_of_check]

theorem isSilent_serializer : b.serializer.IsSilent := by
  have hvalue : b.valueClass.IsSilent := hb.generated.nested (by decide)
  have hhead : b.serializerHead.IsSilent := by
    simp (disch := exact Shape.passes_ofList rfl rfl)
      [serializerHead, hvalue, hvalue.simpleName, Library.isSilent, Shape.passes_of_check]
  rw [serializer]
  split
  · exact Code.isSilent_nil
  · simp (disch := exact Shape.passes_ofList rfl rfl)
      [hhead, isSilent_instantiate hb, isSilent_serialize hb, Shape.passes_of_check]

end Blueprint

/-! ## Sections -/

/-- The sections of a blueprint without required properties are silent. -/
theorem Section.isSilent_code {b : Blueprint} (hb : b.IsSilent) {generator : String}
    (hgenerator : Silent generator.toList) (hrequired : b.hasRequired = false)
    (level : SourceLevel) {s : Section} (hs : s ∈ b.sections) :
    Code.IsSilent (s.code generator level b) := by
  have hunset : ∀ p ∈ b.properties, p.tracksUnset = false := by
    simpa [Blueprint.hasRequired, Blueprint.required, requiredOf] using hrequired
  cases s with
  | header => exact Blueprint.isSilent_header hb hgenerator
  | propertyEnum => simp [Blueprint.sections, all, appliesTo, hrequired] at hs
  | fields => exact Blueprint.isSilent_fields hb hrequired level
  | accessors => exact Blueprint.isSilent_accessors hb hunset
  | valueType => exact Blueprint.isSilent_valueType hb
  | serializer => exact Blueprint.isSilent_serializer hb
  | build => exact Blueprint.isSilent_build hb hrequired
  | mergeFromValue => exact Blueprint.isSilent_mergeFromValue hb
  | mergeFromBuilder => exact Blueprint.isSilent_mergeFromBuilder hb hrequired hunset
  | clear => exact Blueprint.isSilent_clear hb hrequired
  | partialType => exact Blueprint.isSilent_partialType hb hrequired hunset
  | buildPartial => exact Blueprint.isSilent_buildPartial hb hrequired
  | footer =>
    simp (disch := exact Shape.passes_ofList rfl rfl) [code, Shape.passes_of_check]

end ValueBuilder
