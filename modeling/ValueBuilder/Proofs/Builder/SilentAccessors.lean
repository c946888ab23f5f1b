import ValueBuilder.Proofs.Builder.SectionTemplates
import ValueBuilder.Proofs.Source.SilentLines

/-!
# Accessors without a trace of the field

The accessors of a property that is not required have no trace of the field with the properties that
are still unset, whatever the strategy of the property.

* `Blueprint.IsSilent` and `Property.IsSilent` say that the names and types of a blueprint have no
  trace of the field themselves.
* `Library.isSilent` and `Blueprint.silent_localName` are about names that the generator chooses.
* `Property.isSilent_accessors` assembles the accessors, which are checked method by method.
-/

namespace ValueBuilder

open Java

namespace Code

@[simp]
theorem isSilent_joined_nil : IsSilent (joined []) :=
  isSilent_nil

@[simp]
theorem isSilent_joined_cons {code : Code} {parts : List Code} :
    IsSilent (joined (code :: parts)) ↔ code.IsSilent ∧ IsSilent (joined parts) := by
  simp [joined, IsSilent, or_imp, forall_and]

end Code

/-! ## Names of declarations -/

/-- The methods of an optional property that have silent names. -/
structure OptionalMethods.IsSilent (methods : OptionalMethods) : Prop where
  optionalSetter : Silent methods.optionalSetter.toList
  nullableSetter : Silent methods.nullableSetter.toList
  clearMethod : Silent methods.clearMethod.toList

/-- Whether the types and names of a strategy are silent. -/
def Strategy.IsSilent : Strategy → Prop
  | plain setter _ => Silent setter.toList
  | optional _ methods e => methods.IsSilent ∧ e.type.IsSilent
  | list e | set e => e.type.IsSilent
  | map key value => key.type.IsSilent ∧ value.type.IsSilent

/-- A property whose names and types are silent. -/
structure Property.IsSilent (p : Property) : Prop where
  name : Silent p.name.toList
  capitalized : Silent p.capitalized.toList
  getter : Silent p.getter.toList
  type : p.type.IsSilent
  strategy : p.strategy.IsSilent

/-- A blueprint whose names and types are silent. -/
structure Blueprint.IsSilent (b : Blueprint) : Prop where
  target : b.target.IsSilent
  builder : b.builder.IsSilent
  generated : b.generated.IsSilent
  properties : ∀ p ∈ b.properties, p.IsSilent

/-- What a property puts into its code. -/
theorem Property.IsSilent.names {p : Property} (h : p.IsSilent) :
    Silent p.name.toList ∧ Silent p.capitalized.toList ∧ Silent p.getter.toList ∧
      p.type.IsSilent :=
  ⟨h.name, h.capitalized, h.getter, h.type⟩

/-- What a blueprint puts into the code of its properties. -/
theorem Blueprint.IsSilent.names {b : Blueprint} (h : b.IsSilent) :
    b.target.IsSilent ∧ Silent b.target.simpleName.toList ∧ b.builder.IsSilent ∧
      Silent b.builder.simpleName.toList ∧ b.generated.IsSilent :=
  ⟨h.target, h.target.simpleName, h.builder, h.builder.simpleName, h.generated⟩

/-! ## Names of the generator -/

theorem Java.Library.isSilent :
    iterable.IsSilent ∧ suppressWarnings.IsSilent ∧ serializable.IsSilent ∧ arrayList.IsSilent ∧
      arrays.IsSilent ∧ collection.IsSilent ∧ collections.IsSilent ∧ linkedHashMap.IsSilent ∧
      linkedHashSet.IsSilent ∧ list.IsSilent ∧ map.IsSilent ∧ set.IsSilent ∧ generated.IsSilent ∧
      nullable.IsSilent ∧ gwtCompatible.IsSilent ∧ visibleForTesting.IsSilent ∧ joiner.IsSilent ∧
      preconditions.IsSilent ∧ immutableList.IsSilent ∧ immutableMap.IsSilent ∧
      immutableSet.IsSilent ∧ customFieldSerializer.IsSilent ∧ serializationException.IsSilent ∧
      streamReader.IsSilent ∧ streamWriter.IsSilent := by
  and_intros <;> exact ClassName.isSilent_topLevel (by decide) (by decide)

theorem Java.Library.isSilent_mapEntry : mapEntry.IsSilent :=
  ClassName.IsSilent.nested (ClassName.isSilent_topLevel (by decide) (by decide)) (by decide)

@[simp]
theorem OptionalFlavour.isSilent_optionalClass (flavour : OptionalFlavour) :
    flavour.optionalClass.IsSilent := by
  cases flavour <;> exact ClassName.isSilent_topLevel (by decide) (by decide)

/-- Underscores in front do not make up the name of the field, unless a small `u` follows. -/
theorem Blueprint.silent_localName (b : Blueprint) {preferred : String}
    (hsilent : Silent preferred.toList) (hhead : preferred.toList.head? ≠ some 'u') :
    Silent (b.localName preferred).toList := by
  rw [localName]
  generalize b.properties.map (·.name) = taken
  fun_induction freshName taken preferred with
  | case1 taken name hmem ih =>
    refine ih ?_ ?_
    · rw [String.toList_append]
      exact hsilent.cons fun _ => hhead
    · rw [String.toList_append]
      show some '_' ≠ some 'u'
      decide
  | case2 taken name hmem => exact hsilent

@[simp]
theorem Element.isSilent_parameter {e : Element} (h : e.type.IsSilent) : e.parameter.IsSilent := by
  rw [parameter]
  split
  · intro c hc
    cases hc
  · exact h

/-! ## Shared statements -/

namespace Accessors

section Methods

variable {b : Blueprint} {p : Property} {e : Element} (hb : b.IsSilent) (hp : p.IsSilent)

include hb in
theorem isSilent_returnsBuilder : b.returnsBuilder.IsSilent := by
  simp (disch := exact Shape.passes_ofList rfl rfl)
    [Blueprint.returnsBuilder, Blueprint.builderName, hb.names, Shape.passes_of_check]

include hb in
theorem isSilent_returnBuilder : b.returnBuilder.IsSilent := by
  simp (disch := exact Shape.passes_ofList rfl rfl)
    [Blueprint.returnBuilder, hb.names, Shape.passes_of_check]

include hb hp in
theorem isSilent_linkGetter {template : String} :
    (b.linkGetter p template).IsSilent ↔ Shape.passes true template = true := by
  simp [Blueprint.linkGetter, hb.names, hp.names]

/-! ## Plain properties -/

include hp in
theorem isSilent_throwsIfArgumentNull : (throwsIfArgumentNull p).IsSilent := by
  simp (disch := exact Shape.passes_ofList rfl rfl)
    [throwsIfArgumentNull, hp.names, Shape.passes_of_check]

include hp in
theorem isSilent_storeArgument (checked : Bool) : (storeArgument p checked).IsSilent := by
  cases checked <;>
    simp (disch := exact Shape.passes_ofList rfl rfl)
      [storeArgument, hp.names, Library.isSilent, Shape.passes_of_check]

include hb hp in
theorem isSilent_plain {setter : String} (hsetter : Silent setter.toList)
    (h : p.tracksUnset = false) : (plain b p setter).IsSilent := by
  have hset : (plainSetter b p setter).IsSilent := by
    simp (disch := exact Shape.passes_ofList rfl rfl)
      [plainSetter, h, hsetter, hb.names, hp.names, isSilent_returnsBuilder hb,
        isSilent_returnBuilder hb, isSilent_linkGetter hb hp, isSilent_throwsIfArgumentNull hp,
        isSilent_storeArgument hp, Shape.passes_of_check]
  have hget : (plainGetter b p).IsSilent := by
    simp (disch := exact Shape.passes_ofList rfl rfl)
      [plainGetter, h, hp.names, isSilent_linkGetter hb hp, Shape.passes_of_check]
  simp [plain, hset, hget]

/-! ## Optional properties -/

include hb hp in
theorem isSilent_optionalDocumentation : (optionalDocumentation b p).IsSilent := by
  simp (disch := exact Shape.passes_ofList rfl rfl)
    [optionalDocumentation, isSilent_returnsBuilder hb, isSilent_linkGetter hb hp,
      Shape.passes_of_check]

theorem isSilent_setOrClear {methods : OptionalMethods} {condition set : Statement}
    (hmethods : methods.IsSilent) :
    (setOrClear methods condition set).IsSilent ↔ condition.IsSilent ∧ set.IsSilent := by
  simp (disch := exact Shape.passes_ofList rfl rfl)
    [setOrClear, hmethods.clearMethod, Shape.passes_of_check]

include hp in
theorem isSilent_returnOptional {template : String} {flavour : OptionalFlavour} :
    (returnOptional template p flavour).IsSilent ↔ Shape.passes true template = true := by
  have hmethod : Silent flavour.nullableMethod.toList := by cases flavour <;> decide
  simp [returnOptional, hmethod, hp.names]

include hb hp in
theorem isSilent_optional {flavour : OptionalFlavour} {methods : OptionalMethods}
    (hmethods : methods.IsSilent) (he : e.type.IsSilent) :
    (optional b p flavour methods e).IsSilent := by
  have hset := hmethods.optionalSetter
  have hdocumentation := isSilent_optionalDocumentation hb hp
  have hreturn := isSilent_returnBuilder hb
  have hsetter : (optionalSetter b p methods e).IsSilent := by
    simp (disch := exact Shape.passes_ofList rfl rfl)
      [optionalSetter, hdocumentation, hreturn, hset, Element.isSilent_parameter he, hb.names,
        hp.names, isSilent_throwsIfArgumentNull hp, isSilent_storeArgument hp,
        Shape.passes_of_check]
  have hoptional : (optionalOptionalSetter b p flavour methods e).IsSilent := by
    simp (disch := exact Shape.passes_ofList rfl rfl)
      [optionalOptionalSetter, hdocumentation, hset, isSilent_setOrClear hmethods,
        OptionalFlavour.optionalOf, he, hb.names, hp.names, Shape.passes_of_check]
  have hnullable : (optionalNullableSetter b p methods e).IsSilent := by
    simp (disch := exact Shape.passes_ofList rfl rfl)
      [optionalNullableSetter, hdocumentation, hset, hmethods.nullableSetter,
        isSilent_setOrClear hmethods, Library.isSilent, he, hb.names, hp.names,
        Shape.passes_of_check]
  have habsent : Silent flavour.absentMethod.toList := by cases flavour <;> decide
  have hclear : (optionalClear b p flavour methods).IsSilent := by
    simp (disch := exact Shape.passes_ofList rfl rfl)
      [optionalClear, isSilent_returnsBuilder hb, isSilent_linkGetter hb hp, hreturn,
        hmethods.clearMethod, habsent, hb.names, hp.names, Shape.passes_of_check]
  have hgetter : (optionalGetter b p flavour e).IsSilent := by
    simp (disch := exact Shape.passes_ofList rfl rfl)
      [optionalGetter, isSilent_linkGetter hb hp, isSilent_returnOptional hp,
        OptionalFlavour.optionalOf, he, hp.names, Shape.passes_of_check]
  simp [optional, hsetter, hoptional, hnullable, hclear, hgetter]

/-! ## Collections -/

theorem isSilent_throwsIfElementNull : (throwsIfElementNull e).IsSilent := by
  simp (disch := exact Shape.passes_ofList rfl rfl) [throwsIfElementNull, Shape.passes_of_check]

theorem isSilent_throwsIfContainsNull : throwsIfContainsNull.IsSilent := by
  simp (disch := exact Shape.passes_ofList rfl rfl) [throwsIfContainsNull, Shape.passes_of_check]

include hb hp in
theorem isSilent_addOne (he : e.type.IsSilent) : (addOne b p e).IsSilent := by
  simp (disch := exact Shape.passes_ofList rfl rfl)
    [addOne, addElement, isSilent_returnsBuilder hb, isSilent_returnBuilder hb,
      isSilent_throwsIfElementNull, Element.isSilent_parameter he, Library.isSilent, hb.names,
      hp.names, Shape.passes_of_check]

include hb hp in
theorem isSilent_addArrayHead (he : e.type.IsSilent) : (addArrayHead b p e).IsSilent := by
  simp (disch := exact Shape.passes_ofList rfl rfl)
    [addArrayHead, Element.isSilent_parameter he, hb.names, hp.names, Shape.passes_of_check]

include hb hp in
theorem isSilent_addAllHead (he : e.type.IsSilent) : (addAllHead b p e).IsSilent := by
  simp (disch := exact Shape.passes_ofList rfl rfl)
    [addAllHead, isSilent_throwsIfContainsNull, he, Library.isSilent, hb.names, hp.names,
      Shape.passes_of_check]

include hb hp in
theorem isSilent_addEach (he : e.type.IsSilent) : (addEach b p e).IsSilent := by
  simp (disch := exact Shape.passes_ofList rfl rfl)
    [addEach, isSilent_returnBuilder hb, Element.isSilent_parameter he, hp.names,
      Shape.passes_of_check]

include hb hp in
theorem isSilent_clearAll {description : String} :
    (clearAll b p description).IsSilent ↔ Shape.passes true description = true := by
  simp (disch := exact Shape.passes_ofList rfl rfl)
    [clearAll, isSilent_returnsBuilder hb, isSilent_returnBuilder hb, isSilent_linkGetter hb hp,
      hb.names, hp.names, Shape.passes_of_check]

include hb hp in
theorem isSilent_unmodifiableView {noun answer : String} {head : Statement}
    (hnoun : noun ∈ ["list", "set", "map"]) :
    (unmodifiableView b p noun head answer).IsSilent ↔
      head.IsSilent ∧ Shape.passes true answer = true := by
  have hline : (Statement.verbatim ["   * Returns an unmodifiable view of the ", noun,
      " that will be returned by"]).IsSilent := by
    simp only [List.mem_cons, List.not_mem_nil, or_false] at hnoun
    rcases hnoun with rfl | rfl | rfl <;>
      exact ⟨rfl, by simp [Statement.fillings, Word.fillings]⟩
  simp (disch := exact Shape.passes_ofList rfl rfl)
    [unmodifiableView, hline, isSilent_linkGetter hb hp, Library.isSilent, hp.names,
      Shape.passes_of_check]

include hb hp in
theorem isSilent_list (he : e.type.IsSilent) : (list b p e).IsSilent := by
  have hdocumentation : (listAddDocumentation b p).IsSilent := by
    simp (disch := exact Shape.passes_ofList rfl rfl)
      [listAddDocumentation, isSilent_returnsBuilder hb, isSilent_linkGetter hb hp,
        Shape.passes_of_check]
  have hadd : (listAdd b p e).IsSilent := by
    simp (disch := exact Shape.passes_ofList rfl rfl)
      [listAdd, isSilent_addOne hb hp he, isSilent_linkGetter hb hp, Shape.passes_of_check]
  have harray : (listAddArray b p e).IsSilent := by
    simp (disch := exact Shape.passes_ofList rfl rfl)
      [listAddArray, hdocumentation, isSilent_throwsIfContainsNull,
        isSilent_addArrayHead hb hp he, isSilent_addEach hb hp he, hp.names,
        Shape.passes_of_check]
  have hall : (listAddAll b p e).IsSilent := by
    simp (disch := exact Shape.passes_ofList rfl rfl)
      [listAddAll, hdocumentation, isSilent_addAllHead hb hp he, isSilent_addEach hb hp he,
        Library.isSilent, hp.names, Shape.passes_of_check]
  simp (disch := exact Shape.passes_ofList rfl rfl)
    [list, hadd, harray, hall, isSilent_clearAll hb hp,
      isSilent_unmodifiableView hb hp (show "list" ∈ ["list", "set", "map"] by simp),
      Library.isSilent, he, hp.names, Shape.passes_of_check]

include hb hp in
theorem isSilent_set (he : e.type.IsSilent) : (set b p e).IsSilent := by
  have hdocumentation : (setAddDocumentation b p).IsSilent := by
    simp (disch := exact Shape.passes_ofList rfl rfl)
      [setAddDocumentation, isSilent_returnsBuilder hb, isSilent_linkGetter hb hp,
        Shape.passes_of_check]
  have hadd : (setAdd b p e).IsSilent := by
    simp (disch := exact Shape.passes_ofList rfl rfl)
      [setAdd, isSilent_addOne hb hp he, isSilent_linkGetter hb hp, hp.names,
        Shape.passes_of_check]
  have harray : (setAddArray b p e).IsSilent := by
    simp [setAddArray, hdocumentation, isSilent_throwsIfContainsNull,
      isSilent_addArrayHead hb hp he, isSilent_addEach hb hp he]
  have hall : (setAddAll b p e).IsSilent := by
    simp [setAddAll, hdocumentation, isSilent_addAllHead hb hp he, isSilent_addEach hb hp he]
  have hremove : (setRemove b p e).IsSilent := by
    simp (disch := exact Shape.passes_ofList rfl rfl)
      [setRemove, isSilent_returnsBuilder hb, isSilent_returnBuilder hb,
        isSilent_linkGetter hb hp, isSilent_throwsIfElementNull, Element.isSilent_parameter he,
        Library.isSilent, hb.names, hp.names, Shape.passes_of_check]
  simp (disch := exact Shape.passes_ofList rfl rfl)
    [set, hadd, harray, hall, hremove, isSilent_clearAll hb hp,
      isSilent_unmodifiableView hb hp (show "set" ∈ ["list", "set", "map"] by simp),
      Library.isSilent, he, hp.names, Shape.passes_of_check]

include hb hp in
theorem isSilent_map {key value : Element} (hkey : key.type.IsSilent)
    (hvalue : value.type.IsSilent) : (map b p key value).IsSilent := by
  have hnull : throwsIfKeyNull.IsSilent := by
    simp (disch := exact Shape.passes_ofList rfl rfl) [throwsIfKeyNull, Shape.passes_of_check]
  have hentry : (throwsIfEntryNull key value).IsSilent := by
    rw [throwsIfEntryNull]
    split
    · exact Code.isSilent_cons.2
        ⟨⟨rfl, by simp [Statement.fillings, Word.fillings]⟩, Code.isSilent_nil⟩
    · simp [hnull]
    · simp (disch := exact Shape.passes_ofList rfl rfl) [Shape.passes_of_check]
    · exact Code.isSilent_nil
  have hcheckKey : (checkKey key).IsSilent := by
    simp (disch := exact Shape.passes_ofList rfl rfl)
      [checkKey, checkNotNull, Library.isSilent, Shape.passes_of_check]
  have hput : (mapPut b p key value).IsSilent := by
    simp (disch := exact Shape.passes_ofList rfl rfl)
      [mapPut, isSilent_returnsBuilder hb, isSilent_returnBuilder hb, isSilent_linkGetter hb hp,
        hentry, hcheckKey, checkNotNull, Element.isSilent_parameter hkey,
        Element.isSilent_parameter hvalue, Library.isSilent, hb.names, hp.names,
        Shape.passes_of_check]
  have hall : (mapPutAll b p key value).IsSilent := by
    simp (disch := exact Shape.passes_ofList rfl rfl)
      [mapPutAll, isSilent_returnsBuilder hb, isSilent_returnBuilder hb,
        isSilent_linkGetter hb hp, hkey, hvalue, Library.isSilent, Library.isSilent_mapEntry,
        hb.names, hp.names, Shape.passes_of_check]
  have hremove : (mapRemove b p key).IsSilent := by
    simp (disch := exact Shape.passes_ofList rfl rfl)
      [mapRemove, isSilent_returnsBuilder hb, isSilent_returnBuilder hb,
        isSilent_linkGetter hb hp, hnull, hcheckKey, Element.isSilent_parameter hkey, hb.names,
        hp.names, Shape.passes_of_check]
  simp (disch := exact Shape.passes_ofList rfl rfl)
    [map, hput, hall, hremove, isSilent_clearAll hb hp,
      isSilent_unmodifiableView hb hp (show "map" ∈ ["list", "set", "map"] by simp),
      Library.isSilent, hkey, hvalue, hp.names, Shape.passes_of_check]

end Methods

end Accessors

/-- The accessors of a property that is not required are silent, whatever its strategy. -/
theorem Property.isSilent_accessors {b : Blueprint} {p : Property} (hb : b.IsSilent)
    (hp : p.IsSilent) (h : p.tracksUnset = false) : (p.accessors b).IsSilent := by
  have hstrategy := hp.strategy
  rw [accessors]
  cases hcase : p.strategy with
  | plain setter hasDefault =>
    rw [hcase] at hstrategy
    exact Accessors.isSilent_plain hb hp hstrategy h
  | optional flavour methods e =>
    rw [hcase] at hstrategy
    exact Accessors.isSilent_optional hb hp hstrategy.1 hstrategy.2
  | list e =>
    rw [hcase] at hstrategy
    exact Accessors.isSilent_list hb hp hstrategy
  | set e =>
    rw [hcase] at hstrategy
    exact Accessors.isSilent_set hb hp hstrategy
  | map key value =>
    rw [hcase] at hstrategy
    exact Accessors.isSilent_map hb hp hstrategy.1 hstrategy.2

end ValueBuilder
