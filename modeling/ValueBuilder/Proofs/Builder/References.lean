import ValueBuilder.Proofs.Builder.SectionTemplates
import ValueBuilder.Proofs.Source.Lines

/-!
# References in generated code

A word of generated code may refer to a constant of the enum of required properties, or make a
builder by the path of a class.  All such words are found section by section, in the order of the
code.

* `Statement.mem_references`: no reference comes from a template's own text.
* `references_accessors`, `references_partialType` and the others list the references of a section:
  a constant is referred to for each required property, and for no other.
* `Blueprint.references_code` collects them.  `Blueprint.mem_references_code` and
  `Blueprint.mem_paths` say what a reference can be, and where a path can lead.
-/

namespace ValueBuilder

open Java

namespace Word

/-- Whether a word refers to a constant or makes a builder. -/
def isReference : Word → Bool
  | .constant _ | .member .. | .creation .. => true
  | .text _ | .name _ | .field .. => false

/-- The constant that a word names. -/
def constant? : Word → Option String
  | .constant s | .member _ s => some s
  | _ => none

/-- The class whose path a word has. -/
def path? : Word → Option ClassName
  | .member enum _ => some enum
  | .creation _ c _ => some c
  | _ => none

@[simp]
theorem isReference_text (s : String) : (text s).isReference = false :=
  rfl

@[simp]
theorem isReference_name (s : String) : (name s).isReference = false :=
  rfl

@[simp]
theorem isReference_constant (s : String) : (constant s).isReference = true :=
  rfl

end Word

/-- The reference that an argument is. -/
def Piece.reference? : Piece → Option Word
  | .word w => if w.isReference then some w else none
  | .cls _ | .type _ => none

@[simp]
theorem Piece.reference?_word (w : Word) :
    (Piece.word w).reference? = if w.isReference then some w else none :=
  rfl

@[simp]
theorem Piece.reference?_cls (c : ClassName) : (Piece.cls c).reference? = none :=
  rfl

@[simp]
theorem Piece.reference?_type (t : JavaType) : (Piece.type t).reference? = none :=
  rfl

/-! ## Words of code -/

namespace Statement

/-- The references that a statement is given. -/
def references : Statement → List Word
  | .template _ args => args.filterMap Piece.reference?
  | .verbatim words => words.filter Word.isReference

@[simp]
theorem references_template_nil (text : String) : (template text []).references = [] :=
  rfl

@[simp]
theorem references_template_cons (text : String) (piece : Piece) (args : List Piece) :
    (template text (piece :: args)).references =
      piece.reference?.toList ++ (template text args).references := by
  cases h : piece.reference? <;> simp [references, h]

@[simp]
theorem references_verbatim (words : List Word) :
    (verbatim words).references = words.filter Word.isReference :=
  rfl

/-- A reference in the text of a statement is one that the statement was given: a template's own
text has none. -/
theorem mem_references {s : Statement} {w : Word} (hw : w.isReference = true)
    (hmem : .word w ∈ s.pieces) : w ∈ s.references := by
  have hparts (args : List Piece) (parts : List Template.Part)
      (hmem : .word w ∈ (Template.expandParts args parts).pieces) : .word w ∈ args := by
    induction parts with
    | nil => simp [Template.expandParts] at hmem
    | cons part parts ih =>
      cases part with
      | literal c =>
        rcases List.mem_cons.1 hmem with hliteral | hrest
        · cases hliteral
          simp at hw
        · exact ih hrest
      | malformed position => simp [Template.expandParts] at hmem
      | argument index =>
        rw [Template.expandParts] at hmem
        split at hmem
        · next piece hpiece =>
          rcases List.mem_cons.1 hmem with rfl | hrest
          · exact List.mem_of_getElem? hpiece
          · exact ih hrest
        · simp at hmem
  cases s with
  | template text args =>
    exact List.mem_filterMap.2 ⟨.word w, hparts args _ hmem, by simp [hw]⟩
  | verbatim words =>
    obtain ⟨w', hw', heq⟩ := List.mem_map.1 hmem
    cases heq
    exact List.mem_filter.2 ⟨hw', hw⟩

@[simp]
theorem references_ite {condition : Prop} [Decidable condition] {first second : Statement} :
    references (if condition then first else second) =
      if condition then first.references else second.references :=
  apply_ite ..

end Statement

namespace Code

/-- The references of code, in the order of the code. -/
def references (code : Code) : List Word :=
  code.flatMap Statement.references

/-- The constants that code refers to. -/
def constants (code : Code) : List String :=
  code.references.filterMap Word.constant?

/-- The classes whose paths stand in code as they are. -/
def paths (code : Code) : List ClassName :=
  code.references.filterMap Word.path?

@[simp]
theorem references_nil : references [] = [] :=
  rfl

@[simp]
theorem references_cons {s : Statement} {code : Code} :
    references (s :: code) = s.references ++ references code :=
  rfl

@[simp]
theorem references_joined_nil : references (joined []) = [] :=
  rfl

@[simp]
theorem references_joined_cons {code : Code} {parts : List Code} :
    references (joined (code :: parts)) = code.references ++ references (joined parts) :=
  List.flatMap_append

@[simp]
theorem references_flatMap {α : Type} {xs : List α} {f : α → Code} :
    references (xs.flatMap f) = xs.flatMap fun x => (f x).references :=
  List.flatMap_assoc

@[simp]
theorem references_map {α : Type} {xs : List α} {f : α → Statement} :
    references (xs.map f) = xs.flatMap fun x => (f x).references :=
  List.flatMap_map ..

@[simp]
theorem references_ite {condition : Prop} [Decidable condition] {first second : Code} :
    references (if condition then first else second) =
      if condition then first.references else second.references :=
  apply_ite ..

/-- No statement of code without references has any. -/
theorem references_eq_nil {s : Statement} {code : Code} (h : code.references = []) (hs : s ∈ code) :
    s.references = [] :=
  List.flatMap_eq_nil_iff.1 h s hs

end Code

/-! ## Accessors -/

namespace Blueprint

@[simp]
theorem references_returnsBuilder (b : Blueprint) : b.returnsBuilder.references = [] :=
  rfl

@[simp]
theorem references_returnBuilder (b : Blueprint) : b.returnBuilder.references = [] :=
  rfl

@[simp]
theorem references_linkGetter (b : Blueprint) (p : Property) (template : String) :
    (b.linkGetter p template).references = [] :=
  rfl

@[simp]
theorem isReference_constantOf (b : Blueprint) (p : Property) :
    (b.constantOf p).isReference = true :=
  rfl

@[simp]
theorem isReference_newBuilder (b : Blueprint) (factory : Factory) :
    (b.newBuilder factory).isReference = true :=
  rfl

end Blueprint

namespace Accessors

variable (b : Blueprint) (p : Property) (e : Element)

@[simp]
theorem references_throwsIfArgumentNull : (throwsIfArgumentNull p).references = [] :=
  rfl

@[simp]
theorem references_storeArgument (checked : Bool) : (storeArgument p checked).references = [] := by
  cases checked <;> rfl

/-- The setter and the getter of a required property refer to its constant. -/
theorem references_plain (setter : String) :
    (plain b p setter).references =
      if p.tracksUnset then [b.constantOf p, b.constantOf p] else [] := by
  cases h : p.tracksUnset <;> simp [plain, plainSetter, plainGetter, h]

@[simp]
theorem references_setOrClear (methods : OptionalMethods) (condition set : Statement) :
    Code.references (setOrClear methods condition set) =
      condition.references ++ set.references := by
  simp [setOrClear]

theorem references_optional (flavour : OptionalFlavour) (methods : OptionalMethods) :
    (optional b p flavour methods e).references = [] := by
  simp [optional, optionalSetter, optionalOptionalSetter, optionalNullableSetter, optionalClear,
    optionalGetter, optionalDocumentation, returnOptional]

@[simp]
theorem references_addOne : (addOne b p e).references = [] := by
  simp [addOne, addElement, throwsIfElementNull]

@[simp]
theorem references_addArrayHead : (addArrayHead b p e).references = [] :=
  rfl

@[simp]
theorem references_addAllHead : (addAllHead b p e).references = [] :=
  rfl

@[simp]
theorem references_addEach : (addEach b p e).references = [] :=
  rfl

@[simp]
theorem references_clearAll (description : String) : (clearAll b p description).references = [] :=
  rfl

@[simp]
theorem references_unmodifiableView (noun answer : String) (head : Statement) :
    (unmodifiableView b p noun head answer).references = head.references := by
  simp [unmodifiableView]

theorem references_list : (list b p e).references = [] := by
  simp [list, listAdd, listAddArray, listAddAll, listAddDocumentation, throwsIfContainsNull]

theorem references_set : (set b p e).references = [] := by
  simp [set, setAdd, setAddArray, setAddAll, setRemove, setAddDocumentation, throwsIfContainsNull,
    throwsIfElementNull]

theorem references_map (key value : Element) : (map b p key value).references = [] := by
  have hentry : (throwsIfEntryNull key value).references = [] := by
    rw [throwsIfEntryNull]
    split <;> rfl
  simp [map, mapPut, mapPutAll, mapRemove, hentry, checkKey, checkNotNull, throwsIfKeyNull]

end Accessors

/-- The accessors of a property refer to its constant if it is required: in the setter and in the
getter. -/
theorem Property.references_accessors (b : Blueprint) (p : Property) :
    (p.accessors b).references =
      if p.tracksUnset then [b.constantOf p, b.constantOf p] else [] := by
  rw [accessors]
  cases hstrategy : p.strategy with
  | plain setter hasDefault => exact Accessors.references_plain b p setter
  | optional flavour methods e =>
    simp [Accessors.references_optional, tracksUnset, Strategy.tracksUnset, hstrategy]
  | list e => simp [Accessors.references_list, tracksUnset, Strategy.tracksUnset, hstrategy]
  | set e => simp [Accessors.references_set, tracksUnset, Strategy.tracksUnset, hstrategy]
  | map key value => simp [Accessors.references_map, tracksUnset, Strategy.tracksUnset, hstrategy]

/-! ## Sections -/

namespace Property

variable (p : Property)

@[simp]
theorem references_builderField (level : SourceLevel) : (p.builderField level).references = [] := by
  rw [builderField]
  cases p.strategy <;> rfl

@[simp]
theorem references_valueField : p.valueField.references = [] := by
  rw [valueField]
  cases p.strategy <;> rfl

@[simp]
theorem references_assignField (name : String) (builder : String) :
    (p.assignField (Word.field "this" name) builder).references = [] := by
  rw [assignField]
  cases p.strategy <;> rfl

@[simp]
theorem references_getterBody : p.getterBody.references = [] := by
  rw [getterBody]
  cases p.strategy <;> rfl

@[simp]
theorem references_mergeValue (value : String) : (p.mergeValue value).references = [] := by
  rw [mergeValue]
  cases p.strategy <;> rfl

/-- Merging from a builder asks whether a required property is set there. -/
@[simp]
theorem references_mergeBuilder (b : Blueprint) (builder : String) :
    (p.mergeBuilder b builder).references = if p.tracksUnset then [b.constantOf p] else [] := by
  rw [mergeBuilder]
  cases hstrategy : p.strategy with
  | plain setter hasDefault =>
    cases h : p.tracksUnset <;> simp
  | _ => simp [tracksUnset, Strategy.tracksUnset, hstrategy]

@[simp]
theorem references_setFromResult (builder stored : String) :
    (p.setFromResult builder stored).references = [] := by
  rw [setFromResult]
  cases p.strategy <;> rfl

@[simp]
theorem references_clear (template : String) : (p.clear template).references = [] := by
  rw [clear]
  cases p.strategy <;> simp

@[simp]
theorem references_clearAlone : p.clearAlone.references = [] := by
  rw [clearAlone]
  cases p.strategy <;> simp

end Property

namespace Blueprint

variable (b : Blueprint)

/-- What code has for each required property. -/
theorem flatMap_required {α : Type} (f : Property → List α) :
    (b.properties.flatMap fun p => if p.tracksUnset then f p else []) = b.required.flatMap f := by
  rw [required, requiredOf]
  induction b.properties with
  | nil => rfl
  | cons p properties ih =>
    cases h : p.tracksUnset <;> simp [h, ih]

theorem references_header (generator : String) : (b.header generator).references = [] := by
  simp [header]

/-- The enum has the constants of the required properties, in order. -/
theorem references_propertyEnumClass :
    b.propertyEnumClass.references = b.required.map fun p => .constant p.constant := by
  simp [propertyEnumClass, List.map_eq_flatMap]

theorem references_fields (level : SourceLevel) : (b.fields level).references = [] := by
  simp [fields]

theorem references_accessors :
    b.accessors.references = b.required.flatMap fun p => [b.constantOf p, b.constantOf p] := by
  rw [accessors, Code.references_flatMap]
  simp only [Property.references_accessors]
  exact b.flatMap_required _

theorem references_build : b.build.references = [] := by
  simp [build, builderName]

theorem references_buildPartial : b.buildPartial.references = [] := by
  simp [buildPartial, builderName]

theorem references_mergeFromValue : b.mergeFromValue.references = [] := by
  simp [mergeFromValue]

theorem references_mergeFromBuilder :
    b.mergeFromBuilder.references = b.required.map b.constantOf := by
  simp [mergeFromBuilder, builderName, flatMap_required, List.map_eq_flatMap]

/-- Clearing makes a builder if it copies from one. -/
theorem references_clear :
    b.clear.references =
      if b.clearsFromTemplate then b.factory.toList.map b.newBuilder else [] := by
  cases hfactory : b.factory with
  | none => simp [clear, hfactory, clearToNothing]
  | some factory => simp [clear, hfactory, clearToTemplate]

/-- The serializer makes a builder to fill. -/
theorem references_serializer : b.serializer.references = b.factory.toList.map b.newBuilder := by
  have hread (p : Property) (reader : String) : (readField p reader).references = [] := by
    rw [readField]
    split <;> simp
  have hwrite (p : Property) : (writeField p).references = [] := by
    rw [writeField]
    split <;> simp
  cases hfactory : b.factory with
  | none => simp [serializer, hfactory]
  | some factory =>
    simp [serializer, hfactory, serializerHead, instantiate, restoreField, serialize, hread, hwrite]

/-! ### Value classes -/

@[simp]
theorem references_nestedHead (template : String) (c : ClassName) :
    (b.nestedHead template c).references = [] := by
  rfl

@[simp]
theorem references_nestedConstructor (template : String) (c : ClassName) :
    (b.nestedConstructor template c).references = [] := by
  simp [nestedConstructor]

@[simp]
theorem references_getter (p : Property) (body : Code) :
    (getter p body).references = body.references := by
  simp [getter, overriding]

@[simp]
theorem references_equals (c : ClassName) (nullSafe : Property → Bool) (result : Statement) :
    (b.equals c nullSafe result).references = result.references := by
  have hdiffers (p : Property) (nullSafe : Bool) (other : String) :
      (differs p nullSafe other).references = [] := by
    rw [differs]
    split <;> simp
  simp [equals, equalsHead, overriding, compareField, hdiffers]

@[simp]
theorem references_toStringMethod (body : Code) :
    (toStringMethod body).references = body.references := by
  simp [toStringMethod, overriding]

@[simp]
theorem references_argumentList (items : List (List Word)) :
    (argumentList items).references = items.flatMap (·.filter Word.isReference) := by
  fun_induction argumentList items with
  | case1 => rfl
  | case2 last => simp [joined]
  | case3 item rest hrest ih => simp [joined, ih]

@[simp]
theorem references_concatenated (properties : List Property) :
    (concatenated properties).references = [] := by
  fun_induction concatenated properties with
  | case1 => rfl
  | case2 last => simp [joined, labelled]
  | case3 p rest hrest ih => simp [joined, labelled, ih]

@[simp]
theorem references_joinedText (opening : List Word) (items : List (List Word)) :
    (joinedText opening items).references =
      opening.filter Word.isReference ++ items.flatMap (·.filter Word.isReference) := by
  have hopening : Code.references
      [.verbatim (joined [["      return "], opening]), "          + COMMA_JOINER.join("] =
      opening.filter Word.isReference := by
    simp [joined]
  simp [joinedText, hopening]

@[simp]
theorem references_labelled (p : Property) : (labelled p).filter Word.isReference = [] :=
  rfl

@[simp]
theorem references_labelledUnlessNull (p : Property) :
    (labelledUnlessNull p).filter Word.isReference = [] :=
  rfl

@[simp]
theorem references_labelledUnlessUnset (p : Property) :
    (b.labelledUnlessUnset p).filter Word.isReference = [b.constantOf p] :=
  rfl

theorem references_valueType : b.valueType.references = [] := by
  have hitem (p : Property) :
      (if p.isNullable then labelledUnlessNull p else labelled p).filter Word.isReference = [] := by
    split <;> simp
  simp [valueType, valueHead, valueHash, overriding, valueText, hitem, List.flatMap_map]

/-- A partial value refers to the constants of the required properties twice: in the getters, and
then in `toString`. -/
theorem references_partialType :
    b.partialType.references =
      (b.required.map fun p => .constant p.constant) ++ b.required.map b.constantOf := by
  have hgetter (p : Property) :
      (b.partialGetter p).references =
        if p.tracksUnset then [.constant p.constant] else [] := by
    simp [partialGetter]
  have hitem (p : Property) :
      (if p.tracksUnset then b.labelledUnlessUnset p
        else if p.isNullable then labelledUnlessNull p
        else labelled p).filter Word.isReference =
        if p.tracksUnset then [b.constantOf p] else [] := by
    split
    · simp
    · split <;> simp
  have hhash : b.partialHash.references = [] := by
    have hadd (p : Property) : (b.addHash p).references = [] := by
      rw [addHash]
      split <;> simp
    simp [partialHash, overriding, shiftHash, hadd]
  have hresult : b.partialEqualsResult.references = [] := by
    simp [partialEqualsResult]
  have htext : b.partialText.references = b.required.map b.constantOf := by
    rw [partialText]
    split
    · next hempty => simp [required, requiredOf, List.isEmpty_iff.1 hempty]
    · rw [references_joinedText, List.flatMap_map]
      simp [hitem, flatMap_required, List.map_eq_flatMap]
  simp [partialType, hgetter, hhash, hresult, htext, flatMap_required, List.map_eq_flatMap]

/-! ## The whole class -/

variable {generator : String} {level : SourceLevel} {s : Section}

/-- The references of each section, in the order of its code. -/
theorem references_code (generator : String) (level : SourceLevel) (s : Section) :
    Code.references (s.code generator level b) =
      match s with
      | .propertyEnum => b.required.map fun p => .constant p.constant
      | .accessors => b.required.flatMap fun p => [b.constantOf p, b.constantOf p]
      | .serializer => b.factory.toList.map b.newBuilder
      | .mergeFromBuilder => b.required.map b.constantOf
      | .clear => if b.clearsFromTemplate then b.factory.toList.map b.newBuilder else []
      | .partialType =>
        (b.required.map fun p => .constant p.constant) ++ b.required.map b.constantOf
      | .header | .fields | .valueType | .build | .mergeFromValue | .buildPartial | .footer => [] := by
  cases s with
  | header => exact b.references_header generator
  | propertyEnum => exact b.references_propertyEnumClass
  | fields => exact b.references_fields level
  | accessors => exact b.references_accessors
  | valueType => exact b.references_valueType
  | serializer => exact b.references_serializer
  | build => exact b.references_build
  | mergeFromValue => exact b.references_mergeFromValue
  | mergeFromBuilder => exact b.references_mergeFromBuilder
  | clear => exact b.references_clear
  | partialType => exact b.references_partialType
  | buildPartial => exact b.references_buildPartial
  | footer => rfl

/-- A reference is to the constant of a required property, or makes a builder. -/
theorem mem_references_code {w : Word} (h : w ∈ Code.references (s.code generator level b)) :
    (∃ p ∈ b.required, w = .constant p.constant ∨ w = b.constantOf p) ∨
      ∃ factory, b.factory = some factory ∧ w = b.newBuilder factory := by
  have hbuilder (h : w ∈ b.factory.toList.map b.newBuilder) :
      ∃ factory, b.factory = some factory ∧ w = b.newBuilder factory := by
    obtain ⟨factory, hfactory, rfl⟩ := List.mem_map.1 h
    exact ⟨factory, Option.mem_toList.1 hfactory, rfl⟩
  rw [references_code] at h
  split at h
  · obtain ⟨p, hp, rfl⟩ := List.mem_map.1 h
    exact .inl ⟨p, hp, .inl rfl⟩
  · obtain ⟨p, hp, hw⟩ := List.mem_flatMap.1 h
    exact .inl ⟨p, hp, .inr (by simpa using hw)⟩
  · exact .inr (hbuilder h)
  · obtain ⟨p, hp, rfl⟩ := List.mem_map.1 h
    exact .inl ⟨p, hp, .inr rfl⟩
  · split at h
    · exact .inr (hbuilder h)
    · cases h
  · rcases List.mem_append.1 h with h | h
    · obtain ⟨p, hp, rfl⟩ := List.mem_map.1 h
      exact .inl ⟨p, hp, .inl rfl⟩
    · obtain ⟨p, hp, rfl⟩ := List.mem_map.1 h
      exact .inl ⟨p, hp, .inr rfl⟩
  all_goals cases h

/-- A path that stands in a section as it is leads to the enum of required properties, or is part
of the expression that makes a builder. -/
theorem mem_paths {c : ClassName} (h : c ∈ Code.paths (s.code generator level b)) :
    c = b.propertyEnum ∨
      ∃ factory, b.factory = some factory ∧ c = factory.namedClass b.builder b.target := by
  obtain ⟨w, hw, hpath⟩ := List.mem_filterMap.1 h
  rcases b.mem_references_code hw with ⟨p, -, rfl | rfl⟩ | ⟨factory, hfactory, rfl⟩
  · cases hpath
  · exact .inl (Option.some.inj hpath).symm
  · exact .inr ⟨factory, hfactory, (Option.some.inj hpath).symm⟩

end Blueprint

end ValueBuilder
