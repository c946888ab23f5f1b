import ValueBuilder.Proofs.Builder.Emission
import ValueBuilder.Proofs.Source.Lines

/-!
# The classes that generated code names

The names of a unit go to the classes that its code names, in the order of the code.  This module
says which classes these can be.

* `Statement.classes_of_mentionsOnly`: the text of a template names no class, so the classes of a
  statement are those of its arguments.
* `Blueprint.Mentions` lists the classes that the arguments can have: those of the blueprint itself,
  those of the library, and those in the types of the properties.
* `Section.mentionsOnly_code` finds no other class in any section, and
  `Blueprint.mentions_of_mem_classes` says so of the whole class.
-/

namespace ValueBuilder

open Java

/-! ## Arguments -/

/-- Whether all classes of a type are of a kind. -/
def Java.JavaType.MentionsOnly (kind : ClassName → Prop) (t : JavaType) : Prop :=
  ∀ c ∈ t.classes, kind c

/-- Whether all classes of an argument are of a kind. -/
def Piece.MentionsOnly (kind : ClassName → Prop) (piece : Piece) : Prop :=
  ∀ c ∈ piece.classes, kind c

/-- Whether the arguments of a statement name only classes of a kind. -/
def Statement.MentionsOnly (kind : ClassName → Prop) : Statement → Prop
  | .template _ args => ∀ piece ∈ args, piece.MentionsOnly kind
  | .verbatim _ => True

/-- Whether the arguments in code name only classes of a kind. -/
def Code.MentionsOnly (kind : ClassName → Prop) (code : Code) : Prop :=
  ∀ s ∈ code, s.MentionsOnly kind

section Arguments

variable {kind : ClassName → Prop}

instance [DecidablePred kind] : DecidablePred (Piece.MentionsOnly kind) := fun piece =>
  inferInstanceAs (Decidable (∀ c ∈ piece.classes, kind c))

instance [DecidablePred kind] : DecidablePred (Statement.MentionsOnly kind)
  | .template _ args => inferInstanceAs (Decidable (∀ piece ∈ args, piece.MentionsOnly kind))
  | .verbatim _ => .isTrue trivial

instance [DecidablePred kind] : DecidablePred (Code.MentionsOnly kind) := fun code =>
  inferInstanceAs (Decidable (∀ s ∈ code, s.MentionsOnly kind))

@[simp]
theorem Java.JavaType.mentionsOnly_primitive (p : Primitive) :
    (JavaType.primitive p).MentionsOnly kind := by
  intro c hc
  cases hc

@[simp]
theorem Java.JavaType.mentionsOnly_declared {c : ClassName} {arg : JavaType} :
    (JavaType.declared c [arg]).MentionsOnly kind ↔ kind c ∧ arg.MentionsOnly kind := by
  simp [MentionsOnly, classes, classesOfArgs]

@[simp]
theorem Java.JavaType.mentionsOnly_extending {bound : JavaType} :
    (JavaType.extending bound).MentionsOnly kind ↔ bound.MentionsOnly kind :=
  Iff.rfl

@[simp]
theorem Piece.mentionsOnly_word (w : Word) : (Piece.word w).MentionsOnly kind := by
  intro c hc
  cases hc

@[simp]
theorem Piece.mentionsOnly_cls {c : ClassName} : (Piece.cls c).MentionsOnly kind ↔ kind c := by
  simp [MentionsOnly, classes]

@[simp]
theorem Piece.mentionsOnly_type {t : JavaType} :
    (Piece.type t).MentionsOnly kind ↔ t.MentionsOnly kind :=
  Iff.rfl

@[simp]
theorem Statement.mentionsOnly_verbatim (words : List Word) :
    (Statement.verbatim words).MentionsOnly kind :=
  trivial

@[simp]
theorem Statement.mentionsOnly_template {text : String} {args : List Piece} :
    (Statement.template text args).MentionsOnly kind ↔ ∀ piece ∈ args, piece.MentionsOnly kind :=
  Iff.rfl

@[simp]
theorem Statement.mentionsOnly_ite {condition : Prop} [Decidable condition]
    {first second : Statement} :
    Statement.MentionsOnly kind (if condition then first else second) ↔
      (condition → first.MentionsOnly kind) ∧ (¬condition → second.MentionsOnly kind) := by
  by_cases h : condition <;> simp [h]

/-- The classes that a statement names are those of its arguments. -/
theorem Statement.classes_of_mentionsOnly {s : Statement} (h : s.MentionsOnly kind) :
    ∀ c ∈ s.classes, kind c := by
  -- A part of a template is a character or an argument.
  have hparts (args : List Piece) (hargs : ∀ piece ∈ args, piece.MentionsOnly kind)
      (parts : List Template.Part) :
      ∀ piece ∈ (Template.expandParts args parts).pieces, piece.MentionsOnly kind := by
    induction parts with
    | nil => simp [Template.expandParts]
    | cons part parts ih =>
      cases part with
      | literal c => exact List.forall_mem_cons.2 ⟨Piece.mentionsOnly_word _, ih⟩
      | malformed position => simp [Template.expandParts]
      | argument index =>
        rw [Template.expandParts]
        split
        · next piece hpiece =>
          exact List.forall_mem_cons.2 ⟨hargs piece (List.mem_of_getElem? hpiece), ih⟩
        · simp
  intro c hc
  obtain ⟨piece, hpiece, hclass⟩ := List.mem_flatMap.1 hc
  cases s with
  | template text args => exact hparts args h _ piece hpiece c hclass
  | verbatim words =>
    obtain ⟨w, -, rfl⟩ := List.mem_map.1 hpiece
    cases hclass

end Arguments

namespace Code

variable {kind : ClassName → Prop} {code : Code}

@[simp]
theorem mentionsOnly_nil : Code.MentionsOnly kind [] := by
  simp [MentionsOnly]

@[simp]
theorem mentionsOnly_cons {s : Statement} :
    Code.MentionsOnly kind (s :: code) ↔ s.MentionsOnly kind ∧ code.MentionsOnly kind := by
  simp [MentionsOnly]

@[simp]
theorem mentionsOnly_joined_nil : Code.MentionsOnly kind (joined []) :=
  mentionsOnly_nil

@[simp]
theorem mentionsOnly_joined_cons {parts : List Code} :
    Code.MentionsOnly kind (joined (code :: parts)) ↔
      code.MentionsOnly kind ∧ Code.MentionsOnly kind (joined parts) := by
  simp [joined, MentionsOnly, or_imp, forall_and]

@[simp]
theorem mentionsOnly_flatMap {α : Type} {xs : List α} {f : α → Code} :
    Code.MentionsOnly kind (xs.flatMap f) ↔ ∀ x ∈ xs, (f x).MentionsOnly kind := by
  simp only [MentionsOnly, List.mem_flatMap]
  exact ⟨fun h x hx s hs => h s ⟨x, hx, hs⟩, fun h s ⟨x, hx, hs⟩ => h x hx s hs⟩

@[simp]
theorem mentionsOnly_map {α : Type} {xs : List α} {f : α → Statement} :
    Code.MentionsOnly kind (xs.map f) ↔ ∀ x ∈ xs, (f x).MentionsOnly kind := by
  simp [MentionsOnly]

@[simp]
theorem mentionsOnly_ite {condition : Prop} [Decidable condition] {first second : Code} :
    Code.MentionsOnly kind (if condition then first else second) ↔
      (condition → first.MentionsOnly kind) ∧ (¬condition → second.MentionsOnly kind) := by
  by_cases h : condition <;> simp [h]

theorem classes_of_mentionsOnly (h : code.MentionsOnly kind) : ∀ c ∈ code.classes, kind c := by
  intro c hc
  obtain ⟨s, hs, hc⟩ := List.mem_flatMap.1 hc
  exact Statement.classes_of_mentionsOnly (h s hs) c hc

end Code

/-! ## The classes of a blueprint -/

/-- The library classes that generated code names, whatever the types of the properties. -/
def Java.Library.classes : List ClassName :=
  [iterable, suppressWarnings, serializable, arrayList, arrays, collection, collections, enumSet,
    linkedHashMap, linkedHashSet, list, map, mapEntry, platformOptional, set, generated, nullable,
    gwtCompatible, visibleForTesting, guavaOptional, joiner, preconditions, immutableList,
    immutableMap, immutableSet, customFieldSerializer, serializationException, streamReader,
    streamWriter]

/-- The types of the elements that a strategy stores. -/
def Strategy.elementTypes : Strategy → List JavaType
  | plain .. => []
  | optional _ _ e | list e | set e => [e.type]
  | map key value => [key.type, value.type]

/-- The classes that the code of a blueprint may name. -/
inductive Blueprint.Mentions (b : Blueprint) : ClassName → Prop
  | target : b.Mentions b.target
  | builder : b.Mentions b.builder
  | generated : b.Mentions b.generated
  | member {m : ClassName} (hm : m ∈ b.memberClasses) : b.Mentions m
  | library {c : ClassName} (hc : c ∈ Library.classes) : b.Mentions c
  | box (p : Primitive) : b.Mentions p.boxedClass
  | type {p : Property} (hp : p ∈ b.properties) {c : ClassName} (hc : c ∈ p.type.classes) :
    b.Mentions c
  | element {p : Property} (hp : p ∈ b.properties) {t : JavaType}
    (ht : t ∈ p.strategy.elementTypes) {c : ClassName} (hc : c ∈ t.classes) : b.Mentions c

namespace Blueprint

variable (b : Blueprint)

/-- The classes that are made for the target. -/
theorem mentions_own :
    b.Mentions b.target ∧ b.Mentions b.builder ∧ b.Mentions b.generated ∧ b.Mentions b.valueClass ∧
      b.Mentions b.partialClass ∧ b.Mentions b.propertyEnum :=
  ⟨.target, .builder, .generated, .member (by simp [memberClasses]),
    .member (by simp [memberClasses]), .member (by simp [memberClasses])⟩

theorem mentions_library :
    b.Mentions Library.iterable ∧ b.Mentions Library.suppressWarnings ∧
      b.Mentions Library.serializable ∧ b.Mentions Library.arrayList ∧ b.Mentions Library.arrays ∧
      b.Mentions Library.collection ∧ b.Mentions Library.collections ∧
      b.Mentions Library.enumSet ∧ b.Mentions Library.linkedHashMap ∧
      b.Mentions Library.linkedHashSet ∧ b.Mentions Library.list ∧ b.Mentions Library.map ∧
      b.Mentions Library.mapEntry ∧ b.Mentions Library.set ∧ b.Mentions Library.generated ∧
      b.Mentions Library.nullable ∧ b.Mentions Library.gwtCompatible ∧
      b.Mentions Library.visibleForTesting ∧ b.Mentions Library.joiner ∧
      b.Mentions Library.preconditions ∧ b.Mentions Library.immutableList ∧
      b.Mentions Library.immutableMap ∧ b.Mentions Library.immutableSet ∧
      b.Mentions Library.customFieldSerializer ∧ b.Mentions Library.serializationException ∧
      b.Mentions Library.streamReader ∧ b.Mentions Library.streamWriter := by
  and_intros <;> exact .library (by simp [Library.classes])

theorem mentions_optionalClass (flavour : OptionalFlavour) : b.Mentions flavour.optionalClass := by
  cases flavour <;> exact .library (by simp [OptionalFlavour.optionalClass, Library.classes])

/-- The names under which classes are declared inside the generated one. -/
def memberNames : List String :=
  ["Value", "Partial", "Property", "Value_CustomFieldSerializer"]

/-- A member class is the builder, or it is declared inside the generated class. -/
theorem eq_builder_or_nested_of_mem_memberClasses {b : Blueprint} {m : ClassName}
    (hm : m ∈ b.memberClasses) :
    m = b.builder ∨ ∃ name ∈ memberNames, m = b.generated.nested name := by
  have hserializer : b.serializerName = "Value_CustomFieldSerializer" := by
    simp [serializerName, valueClass, ClassName.simpleName, ClassName.nested]
  simp only [memberClasses, List.mem_append, List.mem_cons, List.not_mem_nil, or_false,
    List.mem_ite_nil_right] at hm
  rcases hm with (rfl | rfl | rfl | rfl) | ⟨-, rfl⟩
  · exact .inr ⟨"Value", by decide, rfl⟩
  · exact .inr ⟨"Partial", by decide, rfl⟩
  · exact .inr ⟨"Property", by decide, rfl⟩
  · exact .inl rfl
  · exact .inr ⟨b.serializerName, by rw [hserializer]; decide, rfl⟩

end Blueprint

@[simp]
theorem Element.mentionsOnly_parameter {kind : ClassName → Prop} {e : Element}
    (h : e.type.MentionsOnly kind) : e.parameter.MentionsOnly kind := by
  rw [parameter]
  split
  · exact JavaType.mentionsOnly_primitive _
  · exact h

/-! ## Accessors -/

namespace Accessors

section Methods

variable {b : Blueprint} {p : Property} {e : Element} (he : e.type.MentionsOnly b.Mentions)

@[simp]
theorem mentionsOnly_returnBuilder : b.returnBuilder.MentionsOnly b.Mentions := by
  simp [Blueprint.returnBuilder, b.mentions_own]

@[simp]
theorem mentionsOnly_returnsBuilder : b.returnsBuilder.MentionsOnly b.Mentions := by
  simp [Blueprint.returnsBuilder, Blueprint.builderName]

@[simp]
theorem mentionsOnly_linkGetter (template : String) :
    (b.linkGetter p template).MentionsOnly b.Mentions := by
  simp [Blueprint.linkGetter, b.mentions_own]

@[simp]
theorem mentionsOnly_storeArgument (checked : Bool) :
    (storeArgument p checked).MentionsOnly b.Mentions := by
  simp [storeArgument, b.mentions_library]

theorem mentionsOnly_plain (setter : String) (hp : p.type.MentionsOnly b.Mentions) :
    (plain b p setter).MentionsOnly b.Mentions := by
  simp [plain, plainSetter, plainGetter, throwsIfArgumentNull, hp, b.mentions_own,
    b.mentions_library]

include he

theorem mentionsOnly_optional (flavour : OptionalFlavour) (methods : OptionalMethods) :
    (optional b p flavour methods e).MentionsOnly b.Mentions := by
  simp [optional, optionalSetter, optionalOptionalSetter, optionalNullableSetter, optionalClear,
    optionalGetter, optionalDocumentation, setOrClear, returnOptional, throwsIfArgumentNull,
    OptionalFlavour.optionalOf, he, b.mentions_own, b.mentions_library, b.mentions_optionalClass]

theorem mentionsOnly_addOne : (addOne b p e).MentionsOnly b.Mentions := by
  simp [addOne, addElement, throwsIfElementNull, he, b.mentions_own, b.mentions_library]

theorem mentionsOnly_addEach : (addEach b p e).MentionsOnly b.Mentions := by
  simp [addEach, he]

theorem mentionsOnly_addArrayHead : (addArrayHead b p e).MentionsOnly b.Mentions := by
  simp [addArrayHead, he, b.mentions_own]

theorem mentionsOnly_addAllHead : (addAllHead b p e).MentionsOnly b.Mentions := by
  simp [addAllHead, throwsIfContainsNull, he, b.mentions_own, b.mentions_library]

omit he in
@[simp]
theorem mentionsOnly_clearAll (description : String) :
    (clearAll b p description).MentionsOnly b.Mentions := by
  simp [clearAll, b.mentions_own]

omit he in
@[simp]
theorem mentionsOnly_unmodifiableView {noun answer : String} {head : Statement} :
    (unmodifiableView b p noun head answer).MentionsOnly b.Mentions ↔
      head.MentionsOnly b.Mentions := by
  simp [unmodifiableView, b.mentions_library]

theorem mentionsOnly_list : (list b p e).MentionsOnly b.Mentions := by
  simp [list, listAdd, listAddArray, listAddAll, listAddDocumentation, throwsIfContainsNull,
    mentionsOnly_addOne he, mentionsOnly_addArrayHead he, mentionsOnly_addAllHead he,
    mentionsOnly_addEach he, he, b.mentions_library]

theorem mentionsOnly_set : (set b p e).MentionsOnly b.Mentions := by
  simp [set, setAdd, setAddArray, setAddAll, setRemove, setAddDocumentation, throwsIfContainsNull,
    throwsIfElementNull, mentionsOnly_addOne he, mentionsOnly_addArrayHead he,
    mentionsOnly_addAllHead he, mentionsOnly_addEach he, he, b.mentions_own, b.mentions_library]

omit he in
theorem mentionsOnly_map {key value : Element} (hkey : key.type.MentionsOnly b.Mentions)
    (hvalue : value.type.MentionsOnly b.Mentions) :
    (map b p key value).MentionsOnly b.Mentions := by
  have hentry : (throwsIfEntryNull key value).MentionsOnly b.Mentions := by
    rw [throwsIfEntryNull]
    split <;> simp [throwsIfKeyNull]
  simp [map, mapPut, mapPutAll, mapRemove, checkKey, checkNotNull, throwsIfKeyNull, hentry, hkey,
    hvalue, b.mentions_own, b.mentions_library]

end Methods

end Accessors

/-! ## Properties -/

namespace Property

section Members

variable {b : Blueprint} {p : Property}

theorem mentionsOnly_type (hp : p ∈ b.properties) : p.type.MentionsOnly b.Mentions :=
  fun _ hc => .type hp hc

theorem mentionsOnly_elementTypes (hp : p ∈ b.properties) :
    ∀ t ∈ p.strategy.elementTypes, t.MentionsOnly b.Mentions :=
  fun _ ht _ hc => .element hp ht hc

/-- A finished value stores the type of the property, or that of the element. -/
theorem mentionsOnly_storedType (hp : p ∈ b.properties) :
    p.storedType.MentionsOnly b.Mentions := by
  have helement := mentionsOnly_elementTypes hp
  cases hstrategy : p.strategy with
  | optional flavour methods e =>
    rw [hstrategy] at helement
    simpa [storedType, Strategy.storedType, hstrategy] using
      helement e.type (List.mem_singleton.2 rfl)
  | _ => simpa [storedType, Strategy.storedType, hstrategy] using mentionsOnly_type hp

theorem mentionsOnly_accessors (hp : p ∈ b.properties) :
    (p.accessors b).MentionsOnly b.Mentions := by
  have helement := mentionsOnly_elementTypes hp
  rw [accessors]
  cases hstrategy : p.strategy with
  | plain setter hasDefault => exact Accessors.mentionsOnly_plain setter (mentionsOnly_type hp)
  | optional flavour methods e =>
    have he := helement e.type (by simp [hstrategy, Strategy.elementTypes])
    exact Accessors.mentionsOnly_optional he flavour methods
  | list e =>
    have he := helement e.type (by simp [hstrategy, Strategy.elementTypes])
    exact Accessors.mentionsOnly_list he
  | set e =>
    have he := helement e.type (by simp [hstrategy, Strategy.elementTypes])
    exact Accessors.mentionsOnly_set he
  | map key value =>
    have hkey := helement key.type (by simp [hstrategy, Strategy.elementTypes])
    have hvalue := helement value.type (by simp [hstrategy, Strategy.elementTypes])
    exact Accessors.mentionsOnly_map hkey hvalue

/-- The field of a collection names the class that holds it and the types of the elements. -/
theorem mentionsOnly_builderField (level : SourceLevel) (hp : p ∈ b.properties) :
    (p.builderField level).MentionsOnly b.Mentions := by
  have helement := mentionsOnly_elementTypes hp
  rw [builderField]
  cases hstrategy : p.strategy <;>
    simp_all [Strategy.elementTypes, elementsField, entriesField, mentionsOnly_type hp,
      b.mentions_library]

theorem mentionsOnly_valueField (hp : p ∈ b.properties) :
    p.valueField.MentionsOnly b.Mentions := by
  have hstored := mentionsOnly_storedType hp
  rw [valueField]
  cases hstrategy : p.strategy <;>
    simp_all [storedType, Strategy.storedType]

@[simp]
theorem mentionsOnly_assignField (w : Word) (builder : String) :
    (p.assignField w builder).MentionsOnly b.Mentions := by
  rw [assignField]
  cases p.strategy <;> simp [b.mentions_library]

@[simp]
theorem mentionsOnly_getterBody : p.getterBody.MentionsOnly b.Mentions := by
  rw [getterBody]
  cases p.strategy <;> simp [Accessors.returnOptional, b.mentions_optionalClass]

@[simp]
theorem mentionsOnly_mergeValue (value : String) :
    (p.mergeValue value).MentionsOnly b.Mentions := by
  rw [mergeValue]
  cases p.strategy <;> simp

@[simp]
theorem mentionsOnly_mergeBuilder (builder : String) :
    (p.mergeBuilder b builder).MentionsOnly b.Mentions := by
  rw [mergeBuilder]
  cases p.strategy <;> simp [b.mentions_own]

@[simp]
theorem mentionsOnly_setFromResult (builder stored : String) :
    (p.setFromResult builder stored).MentionsOnly b.Mentions := by
  rw [setFromResult]
  cases p.strategy <;> simp

@[simp]
theorem mentionsOnly_clear (template : String) : (p.clear template).MentionsOnly b.Mentions := by
  rw [clear]
  cases p.strategy <;> simp

@[simp]
theorem mentionsOnly_clearAlone : p.clearAlone.MentionsOnly b.Mentions := by
  rw [clearAlone]
  cases p.strategy <;> simp

end Members

end Property

/-! ## Sections -/

namespace Blueprint

variable (b : Blueprint)

theorem mentionsOnly_header (generator : String) :
    (b.header generator).MentionsOnly b.Mentions := by
  simp [header, b.mentions_own, b.mentions_library]

theorem mentionsOnly_propertyEnumClass : b.propertyEnumClass.MentionsOnly b.Mentions := by
  simp [propertyEnumClass]

theorem mentionsOnly_fields (level : SourceLevel) : (b.fields level).MentionsOnly b.Mentions := by
  have hfield (p : Property) (hp : p ∈ b.properties) :
      (p.builderField level).MentionsOnly b.Mentions := Property.mentionsOnly_builderField level hp
  simp +contextual [fields, hfield, b.mentions_own, b.mentions_library]

theorem mentionsOnly_accessors : b.accessors.MentionsOnly b.Mentions := by
  rw [accessors, Code.mentionsOnly_flatMap]
  exact fun p hp => Property.mentionsOnly_accessors hp

theorem mentionsOnly_build : b.build.MentionsOnly b.Mentions := by
  simp [build, builderName, b.mentions_own, b.mentions_library]

theorem mentionsOnly_buildPartial : b.buildPartial.MentionsOnly b.Mentions := by
  simp [buildPartial, builderName, b.mentions_own, b.mentions_library]

theorem mentionsOnly_mergeFromValue : b.mergeFromValue.MentionsOnly b.Mentions := by
  simp [mergeFromValue, b.mentions_own]

theorem mentionsOnly_mergeFromBuilder : b.mergeFromBuilder.MentionsOnly b.Mentions := by
  simp [mergeFromBuilder, builderName, b.mentions_own, b.mentions_library]

theorem mentionsOnly_clear : b.clear.MentionsOnly b.Mentions := by
  rw [clear]
  cases b.factory <;> simp [clearToTemplate, clearToNothing, b.mentions_own, b.mentions_library]

@[simp]
theorem mentionsOnly_getter {p : Property} (hp : p ∈ b.properties) {body : Code} :
    (getter p body).MentionsOnly b.Mentions ↔ body.MentionsOnly b.Mentions := by
  simp [getter, overriding, Property.mentionsOnly_type hp]

@[simp]
theorem mentionsOnly_nestedConstructor (template : String) (c : ClassName) :
    (b.nestedConstructor template c).MentionsOnly b.Mentions := by
  simp [nestedConstructor, b.mentions_own]

theorem mentionsOnly_equals {c : ClassName} (hc : b.Mentions c) {nullSafe : Property → Bool}
    {result : Statement} (hresult : result.MentionsOnly b.Mentions) :
    (b.equals c nullSafe result).MentionsOnly b.Mentions := by
  have hdiffers (p : Property) (nullSafe : Bool) (other : String) :
      (differs p nullSafe other).MentionsOnly b.Mentions := by
    rw [differs]
    split <;> simp [Mentions.box]
  simp [equals, equalsHead, compareField, overriding, hdiffers, hc, hresult]

@[simp]
theorem mentionsOnly_argumentList (items : List (List Word)) :
    (argumentList items).MentionsOnly b.Mentions := by
  fun_induction argumentList items with
  | case1 => simp
  | case2 last => simp
  | case3 item rest hrest ih => simp [ih]

@[simp]
theorem mentionsOnly_concatenated (properties : List Property) :
    (concatenated properties).MentionsOnly b.Mentions := by
  fun_induction concatenated properties with
  | case1 => simp
  | case2 last => simp
  | case3 p rest hrest ih => simp [ih]

theorem mentionsOnly_valueType : b.valueType.MentionsOnly b.Mentions := by
  have hfield (p : Property) (hp : p ∈ b.properties) : p.valueField.MentionsOnly b.Mentions :=
    Property.mentionsOnly_valueField hp
  have hgetter (p : Property) (hp : p ∈ b.properties) :
      (getter p p.getterBody).MentionsOnly b.Mentions := by simp [hp]
  have hequals : (b.equals b.valueClass Property.isNullable "      return true;").MentionsOnly
      b.Mentions := b.mentionsOnly_equals (by simp [b.mentions_own]) (by simp)
  simp +contextual [valueType, valueHead, nestedHead, valueHash, overriding, toStringMethod,
    valueText, joinedText, hfield, hgetter, hequals, b.mentions_own, b.mentions_library]

theorem mentionsOnly_partialType : b.partialType.MentionsOnly b.Mentions := by
  have hfield (p : Property) (hp : p ∈ b.properties) : p.valueField.MentionsOnly b.Mentions :=
    Property.mentionsOnly_valueField hp
  have hgetter (p : Property) (hp : p ∈ b.properties) :
      (b.partialGetter p).MentionsOnly b.Mentions := by
    simp [partialGetter, hp, b.mentions_own]
  have hequals : (b.equals b.partialClass (fun p => p.isNullable || p.tracksUnset)
      b.partialEqualsResult).MentionsOnly b.Mentions :=
    b.mentionsOnly_equals (by simp [b.mentions_own]) (by simp [partialEqualsResult])
  have hhash (p : Property) : (b.addHash p).MentionsOnly b.Mentions := by
    rw [addHash]
    split <;> simp [Mentions.box]
  simp +contextual [partialType, nestedHead, partialHash, shiftHash, overriding, toStringMethod,
    partialText, joinedText, hfield, hgetter, hequals, hhash, b.mentions_own, b.mentions_library]

theorem mentionsOnly_serializer : b.serializer.MentionsOnly b.Mentions := by
  have hrestore (p : Property) (hp : p ∈ b.properties) :
      (b.restoreField p).MentionsOnly b.Mentions := by
    have hread : (readField p b.streamReader).MentionsOnly b.Mentions := by
      rw [readField]
      split <;> simp [Property.mentionsOnly_storedType hp]
    simp [restoreField, hread]
  have hwrite (p : Property) : (writeField p).MentionsOnly b.Mentions := by
    rw [writeField]
    split <;> simp
  rw [serializer]
  split
  · simp
  · simp +contextual [serializerHead, instantiate, serialize, hrestore, hwrite, b.mentions_own,
      b.mentions_library]

end Blueprint

/-- No section names another class. -/
theorem Section.mentionsOnly_code (generator : String) (level : SourceLevel) (b : Blueprint)
    (s : Section) : (s.code generator level b).MentionsOnly b.Mentions := by
  cases s with
  | header => exact b.mentionsOnly_header generator
  | propertyEnum => exact b.mentionsOnly_propertyEnumClass
  | fields => exact b.mentionsOnly_fields level
  | accessors => exact b.mentionsOnly_accessors
  | valueType => exact b.mentionsOnly_valueType
  | serializer => exact b.mentionsOnly_serializer
  | build => exact b.mentionsOnly_build
  | mergeFromValue => exact b.mentionsOnly_mergeFromValue
  | mergeFromBuilder => exact b.mentionsOnly_mergeFromBuilder
  | clear => exact b.mentionsOnly_clear
  | partialType => exact b.mentionsOnly_partialType
  | buildPartial => exact b.mentionsOnly_buildPartial
  | footer => simp [code]

/-- A class that the generated code names belongs to the blueprint, to the library or to the type of
a property. -/
theorem Blueprint.mentions_of_mem_classes {b : Blueprint} {generator : String} {level : SourceLevel}
    {c : ClassName} (h : c ∈ Code.classes (b.classCode generator level)) : b.Mentions c := by
  have hcode : (b.classCode generator level).MentionsOnly b.Mentions := by
    rw [classCode, Code.mentionsOnly_flatMap]
    exact fun s _ => s.mentionsOnly_code generator level b
  exact Code.classes_of_mentionsOnly hcode c h

end ValueBuilder
