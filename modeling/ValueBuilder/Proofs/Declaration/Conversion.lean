import ValueBuilder.Declaration.Conversion
import ValueBuilder.Proofs.Blueprint.Checks
import ValueBuilder.Proofs.Outcomes

/-!
# Which declarations are converted

A declaration is converted if its names and its types can be read, and if the properties that
follow from its getters have distinct names and the required ones distinct constants.

* `TypeDeclaration.ReadsNames` and `PropertyDeclaration.Reads` say what is read.
* `TypeDeclaration.IsValid` collects the conditions, and `TypeDeclaration.Violates` says which of
  them is the first that a declaration violates.
* `TypeDeclaration.convert_eq_ok_iff` and `TypeDeclaration.convert_eq_error_iff` follow the steps of
  the conversion; no later proof opens it.
* `declarations_accepted_iff_valid` puts them together.
-/

namespace ValueBuilder

open Java

/-! ## Derived properties -/

theorem length_propertyNames (getters : List (String × JavaType)) :
    (propertyNames getters).length = getters.length := by
  rw [propertyNames]
  split <;> rw [List.length_map]

namespace TypeDeclaration

/-- Properties have the names that follow from their getters. -/
theorem map_name_propertiesOf (getters : List (PropertyDeclaration × JavaType)) :
    (propertiesOf getters).map (·.name) =
      propertyNames (getters.map fun (declaration, type) => (declaration.getter, type)) := by
  have hlength := length_propertyNames
    (getters.map fun (declaration, type) => (declaration.getter, type))
  rw [List.length_map] at hlength
  rw [propertiesOf, ← List.map_uncurry_zip_eq_zipWith, List.map_map]
  exact List.map_snd_zip (Nat.le_of_eq hlength)

end TypeDeclaration

/-! ## Reading -/

/-- The getter is an identifier, and its type can be read. -/
structure PropertyDeclaration.Reads (scope : TypeScope) (declaration : PropertyDeclaration)
    (type : JavaType) : Prop where
  getter : isIdentifier declaration.getter = true
  type : scope.parse declaration.type = .ok type

namespace PropertyDeclaration

variable {scope : TypeScope} {declaration : PropertyDeclaration}

theorem readType_eq_ok_iff {type : JavaType} :
    declaration.readType scope = .ok type ↔ declaration.Reads scope type := by
  rw [readType]
  split
  · next hgetter =>
    rw [mapError_eq_ok_iff]
    exact ⟨fun h => ⟨hgetter, h⟩, fun h => h.type⟩
  · next hgetter => exact iff_of_false (fun h => nomatch h) fun h => hgetter h.getter

/-- The getter is judged before its type. -/
theorem readType_eq_error_iff {e : ConversionError} :
    declaration.readType scope = .error e ↔
      (isIdentifier declaration.getter = false ∧ e = .invalidGetter declaration.getter) ∨
        ∃ cause, isIdentifier declaration.getter = true ∧
          scope.parse declaration.type = .error cause ∧
            e = .invalidPropertyType declaration.getter cause := by
  rw [readType]
  split
  · next hgetter => simp [mapError_eq_error_iff, hgetter, eq_comm (a := e)]
  · next hgetter => simp [hgetter, eq_comm (a := e)]

end PropertyDeclaration

namespace TypeDeclaration

variable {declaration : TypeDeclaration}

/-- The names of a declaration can be read: that of the type, that of the builder, and those of the
imports. -/
structure ReadsNames (declaration : TypeDeclaration) (target : ClassName) (scope : TypeScope) :
    Prop where
  typeName : ClassName.parse declaration.name = .ok target
  builderName : isIdentifier declaration.builder.name = true
  package : scope.package = target.package
  imports : List.Forall₂ (fun name c => ClassName.parse name = .ok c) declaration.imports
    scope.imports

theorem readScope_eq_ok_iff {target : ClassName} {scope : TypeScope} :
    declaration.readScope = .ok (target, scope) ↔ declaration.ReadsNames target scope := by
  cases hbuilder : isIdentifier declaration.builder.name with
  | false =>
    refine iff_of_false ?_ fun h => ?_
    · simp [readScope, bind_eq_ok_iff, hbuilder, throw, throwThe, MonadExceptOf.throw]
    · rw [h.builderName] at hbuilder
      cases hbuilder
  | true =>
    simp only [readScope, bind_eq_ok_iff, mapError_eq_ok_iff, mapM_eq_ok_iff, hbuilder, if_true,
      pure, Except.pure, Except.ok.injEq, Prod.mk.injEq]
    constructor
    · rintro ⟨_, htarget, imports, himports, rfl, rfl⟩
      exact ⟨htarget, hbuilder, rfl, himports⟩
    · rintro ⟨htarget, -, hpackage, himports⟩
      refine ⟨target, htarget, scope.imports, himports, rfl, ?_⟩
      rw [← hpackage]

/-- The type name is judged first, then the name of the builder, and then the imports in order. -/
theorem readScope_eq_error_iff {e : ConversionError} :
    declaration.readScope = .error e ↔
      (∃ cause, ClassName.parse declaration.name = .error cause ∧
        e = .invalidTypeName declaration.name cause) ∨
      ∃ target, ClassName.parse declaration.name = .ok target ∧
        ((isIdentifier declaration.builder.name = false ∧
            e = .invalidBuilderName declaration.builder.name) ∨
          (isIdentifier declaration.builder.name = true ∧
            ∃ before name behind imports, declaration.imports = before ++ name :: behind ∧
              List.Forall₂ (fun name c => ClassName.parse name = .ok c) before imports ∧
                ∃ cause, ClassName.parse name = .error cause ∧ e = .invalidImport name cause)) := by
  cases hbuilder : isIdentifier declaration.builder.name with
  | false =>
    simp [readScope, bind_eq_error_iff, mapError_eq_ok_iff, mapError_eq_error_iff, hbuilder, throw,
      throwThe, MonadExceptOf.throw, eq_comm (a := e)]
  | true =>
    simp [readScope, bind_eq_error_iff, mapError_eq_ok_iff, mapError_eq_error_iff,
      mapM_eq_error_iff, hbuilder, pure, Except.pure, eq_comm (a := e)]

/-! ## Conversion -/

/-- The getters of the properties with their types. -/
def getters (declaration : TypeDeclaration) (types : List JavaType) : List (String × JavaType) :=
  (declaration.properties.zip types).map fun (property, type) => (property.getter, type)

/-- The properties that follow from the getters and their types. -/
def derived (declaration : TypeDeclaration) (types : List JavaType) : List Property :=
  propertiesOf (declaration.properties.zip types)

/-- A conversion reads the names, then the types of the properties, and checks the draft. -/
theorem convert_eq_ok_iff {conversion : Conversion} :
    declaration.convert = .ok conversion ↔
      ∃ target scope types, declaration.ReadsNames target scope ∧
        List.Forall₂ (·.Reads scope ·) declaration.properties types ∧
        (declaration.draft target (declaration.derived types)).check = .ok conversion.blueprint ∧
        conversion.warnings = declaration.warnings target := by
  simp only [convert, bind_eq_ok_iff, mapM_eq_ok_iff, mapError_eq_ok_iff, Prod.exists,
    readScope_eq_ok_iff, PropertyDeclaration.readType_eq_ok_iff, pure, Except.pure,
    Except.ok.injEq]
  constructor
  · rintro ⟨target, scope, hnames, types, htypes, b, hcheck, rfl⟩
    exact ⟨target, scope, types, hnames, htypes, hcheck, rfl⟩
  · rintro ⟨target, scope, types, hnames, htypes, hcheck, hwarnings⟩
    refine ⟨target, scope, hnames, types, htypes, conversion.blueprint, hcheck, ?_⟩
    rw [← hwarnings]

/-- The target of a converted declaration is the class of its type name. -/
theorem parse_name_of_convert {conversion : Conversion}
    (h : declaration.convert = .ok conversion) :
    ClassName.parse declaration.name = .ok conversion.blueprint.target := by
  obtain ⟨target, scope, types, hnames, -, hcheck, -⟩ := convert_eq_ok_iff.1 h
  rw [(Draft.isPlanOf_of_check hcheck).target]
  exact hnames.typeName

/-- The builder of a declared type is a member class of its target, and the generated class has its
default name. -/
theorem names_of_convert {conversion : Conversion} (h : declaration.convert = .ok conversion) :
    conversion.blueprint.builder =
        conversion.blueprint.target.nested declaration.builder.name ∧
      conversion.blueprint.generated = defaultGenerated conversion.blueprint.target := by
  obtain ⟨target, scope, types, -, -, hcheck, -⟩ := convert_eq_ok_iff.1 h
  have hplan := Draft.isPlanOf_of_check hcheck
  rw [hplan.builder, hplan.generated, hplan.target]
  exact ⟨rfl, rfl⟩

theorem convert_eq_error_iff {e : ConversionError} :
    declaration.convert = .error e ↔
      declaration.readScope = .error e ∨
      ∃ target scope, declaration.ReadsNames target scope ∧
        ((∃ before property behind types, declaration.properties = before ++ property :: behind ∧
            List.Forall₂ (·.Reads scope ·) before types ∧ property.readType scope = .error e) ∨
          ∃ types, List.Forall₂ (·.Reads scope ·) declaration.properties types ∧
            ∃ cause, (declaration.draft target (declaration.derived types)).HasFault cause ∧
              e = .inconsistent cause) := by
  simp only [convert, bind_eq_error_iff, mapM_eq_ok_iff, mapM_eq_error_iff, mapError_eq_error_iff,
    Prod.exists, readScope_eq_ok_iff, PropertyDeclaration.readType_eq_ok_iff, pure, Except.pure,
    Draft.check_eq_error_iff, reduceCtorEq, and_false, exists_false, or_false, derived,
    eq_comm (a := e)]

/-! ## Valid declarations -/

/-- The conditions on a declaration with what is read from it. -/
structure Accepts (declaration : TypeDeclaration) (target : ClassName) (scope : TypeScope)
    (types : List JavaType) : Prop where
  names : declaration.ReadsNames target scope
  properties : List.Forall₂ (·.Reads scope ·) declaration.properties types
  /-- The derived property names are pairwise distinct. -/
  distinctNames : (propertyNames (declaration.getters types)).Nodup
  /-- So are the constants of the required properties. -/
  distinctConstants : ((requiredOf (declaration.derived types)).map (·.constant)).Nodup

/-- Whether all that a declaration says can be read, and no names clash. -/
def IsValid (declaration : TypeDeclaration) : Prop :=
  ∃ target scope types, declaration.Accepts target scope types

/-- The first condition that a declaration violates, as the error that reports it. -/
inductive Violates (declaration : TypeDeclaration) : ConversionError → Prop
  | typeName {cause : InvalidSegment} (unreadable : ClassName.parse declaration.name = .error cause) :
      Violates declaration (.invalidTypeName declaration.name cause)
  | builderName {target : ClassName} (typeName : ClassName.parse declaration.name = .ok target)
      (unreadable : isIdentifier declaration.builder.name = false) :
      Violates declaration (.invalidBuilderName declaration.builder.name)
  | importName {target : ClassName} {before behind : List String} {name : String}
      {imports : List ClassName} {cause : InvalidSegment}
      (typeName : ClassName.parse declaration.name = .ok target)
      (builderName : isIdentifier declaration.builder.name = true)
      (split : declaration.imports = before ++ name :: behind)
      (earlier : List.Forall₂ (fun name c => ClassName.parse name = .ok c) before imports)
      (unreadable : ClassName.parse name = .error cause) :
      Violates declaration (.invalidImport name cause)
  | getter {target : ClassName} {scope : TypeScope} {before behind : List PropertyDeclaration}
      {property : PropertyDeclaration} {types : List JavaType}
      (names : declaration.ReadsNames target scope)
      (split : declaration.properties = before ++ property :: behind)
      (earlier : List.Forall₂ (·.Reads scope ·) before types)
      (unreadable : isIdentifier property.getter = false) :
      Violates declaration (.invalidGetter property.getter)
  | propertyType {target : ClassName} {scope : TypeScope} {before behind : List PropertyDeclaration}
      {property : PropertyDeclaration} {types : List JavaType} {cause : TypeError}
      (names : declaration.ReadsNames target scope)
      (split : declaration.properties = before ++ property :: behind)
      (earlier : List.Forall₂ (·.Reads scope ·) before types)
      (getter : isIdentifier property.getter = true)
      (unreadable : scope.parse property.type = .error cause) :
      Violates declaration (.invalidPropertyType property.getter cause)
  | propertyName {target : ClassName} {scope : TypeScope} {types : List JavaType}
      {earlier later : Property} (names : declaration.ReadsNames target scope)
      (properties : List.Forall₂ (·.Reads scope ·) declaration.properties types)
      (repeats : IsFirstRepeat (·.name) (declaration.derived types) earlier later) :
      Violates declaration (.inconsistent (.duplicateProperty target later.name))
  | constant {target : ClassName} {scope : TypeScope} {types : List JavaType}
      {earlier later : Property} (names : declaration.ReadsNames target scope)
      (properties : List.Forall₂ (·.Reads scope ·) declaration.properties types)
      (distinctNames : (propertyNames (declaration.getters types)).Nodup)
      (repeats : IsFirstRepeat (·.constant) (requiredOf (declaration.derived types)) earlier later) :
      Violates declaration
        (.inconsistent (.duplicateConstant target later.constant earlier.name later.name))

theorem map_name_derived (declaration : TypeDeclaration) (types : List JavaType) :
    (declaration.derived types).map (·.name) = propertyNames (declaration.getters types) :=
  map_name_propertiesOf _

/-- A draft asks for a serializer only if there is a factory. -/
theorem factory_of_gwtSerializable_draft {target : ClassName} {properties : List Property}
    (h : (declaration.draft target properties).gwtSerializable = true) :
    declaration.gwtSerializable = true ∧ ∃ factory, declaration.builder.factory = some factory := by
  rwa [draft, getsSerializer, Bool.and_eq_true, Option.isSome_iff_exists] at h

theorem isSound_draft_iff {target : ClassName} {types : List JavaType} :
    (declaration.draft target (declaration.derived types)).IsSound ↔
      (propertyNames (declaration.getters types)).Nodup ∧
        ((requiredOf (declaration.derived types)).map (·.constant)).Nodup := by
  rw [← map_name_derived]
  constructor
  · exact fun h => ⟨h.names, h.constants⟩
  · refine fun h => ⟨h.1, h.2, fun hserializes => ?_⟩
    obtain ⟨-, factory, hfactory⟩ := factory_of_gwtSerializable_draft hserializes
    simp [draft, hfactory]

theorem exists_convert_eq_ok_iff :
    (∃ conversion, declaration.convert = .ok conversion) ↔ declaration.IsValid := by
  constructor
  · rintro ⟨conversion, hconvert⟩
    obtain ⟨target, scope, types, hnames, htypes, hcheck, -⟩ := convert_eq_ok_iff.1 hconvert
    obtain ⟨hdistinct, hconstants⟩ :=
      isSound_draft_iff.1 (Draft.exists_check_eq_ok_iff.1 ⟨_, hcheck⟩)
    exact ⟨target, scope, types, hnames, htypes, hdistinct, hconstants⟩
  · rintro ⟨target, scope, types, hnames, htypes, hdistinct, hconstants⟩
    obtain ⟨b, hcheck⟩ := Draft.exists_check_eq_ok_iff.2 (isSound_draft_iff.2 ⟨hdistinct, hconstants⟩)
    exact ⟨⟨b, declaration.warnings target⟩,
      convert_eq_ok_iff.2 ⟨target, scope, types, hnames, htypes, hcheck, rfl⟩⟩

theorem convert_eq_error_iff_violates {e : ConversionError} :
    declaration.convert = .error e ↔ declaration.Violates e := by
  rw [convert_eq_error_iff]
  constructor
  · rintro (hscope | ⟨target, scope, hnames, ⟨before, property, behind, types, hsplit, hbefore, hread⟩ |
      ⟨types, htypes, cause, hfault, rfl⟩⟩)
    · rcases readScope_eq_error_iff.1 hscope with ⟨cause, hcause, rfl⟩ |
        ⟨target, htarget, ⟨hbuilder, rfl⟩ |
          ⟨hbuilder, before, name, behind, imports, hsplit, hbefore, cause, hcause, rfl⟩⟩
      · exact .typeName hcause
      · exact .builderName htarget hbuilder
      · exact .importName htarget hbuilder hsplit hbefore hcause
    · rcases PropertyDeclaration.readType_eq_error_iff.1 hread with ⟨hgetter, rfl⟩ |
        ⟨cause, hgetter, hcause, rfl⟩
      · exact .getter hnames hsplit hbefore hgetter
      · exact .propertyType hnames hsplit hbefore hgetter hcause
    · cases hfault with
      | name hrepeat => exact .propertyName hnames htypes hrepeat
      | constant hdistinct hrepeat =>
        exact .constant hnames htypes (map_name_derived declaration types ▸ hdistinct) hrepeat
      | factory _ _ hserializes hlacks =>
        obtain ⟨-, factory, hfactory⟩ := factory_of_gwtSerializable_draft hserializes
        simp [draft, hfactory] at hlacks
  · intro h
    cases h with
    | typeName hcause => exact .inl (readScope_eq_error_iff.2 (.inl ⟨_, hcause, rfl⟩))
    | builderName htarget hbuilder =>
      exact .inl (readScope_eq_error_iff.2 (.inr ⟨_, htarget, .inl ⟨hbuilder, rfl⟩⟩))
    | importName htarget hbuilder hsplit hbefore hcause =>
      exact .inl (readScope_eq_error_iff.2 (.inr ⟨_, htarget,
        .inr ⟨hbuilder, _, _, _, _, hsplit, hbefore, _, hcause, rfl⟩⟩))
    | getter hnames hsplit hbefore hgetter =>
      exact .inr ⟨_, _, hnames, .inl ⟨_, _, _, _, hsplit, hbefore,
        PropertyDeclaration.readType_eq_error_iff.2 (.inl ⟨hgetter, rfl⟩)⟩⟩
    | propertyType hnames hsplit hbefore hgetter hcause =>
      exact .inr ⟨_, _, hnames, .inl ⟨_, _, _, _, hsplit, hbefore,
        PropertyDeclaration.readType_eq_error_iff.2 (.inr ⟨_, hgetter, hcause, rfl⟩)⟩⟩
    | propertyName hnames htypes hrepeat =>
      exact .inr ⟨_, _, hnames, .inr ⟨_, htypes, _, .name hrepeat, rfl⟩⟩
    | constant hnames htypes hdistinct hrepeat =>
      rw [← map_name_derived] at hdistinct
      exact .inr ⟨_, _, hnames, .inr ⟨_, htypes, _, .constant hdistinct hrepeat, rfl⟩⟩

/-- A conversion warns that a serializer is left out exactly if nothing could feed it. -/
theorem mem_warnings_iff {target : ClassName} {w : Warning} :
    w ∈ declaration.warnings target ↔
      (declaration.gwtSerializable = true ∧ declaration.builder.factory = none) ∧
        w = .serializerOmitted target.qualifiedName := by
  rw [warnings, lacksFactory]
  split
  · next h =>
    rw [Bool.and_eq_true, Option.isNone_iff_eq_none] at h
    rw [List.mem_singleton]
    exact ⟨fun hw => ⟨h, hw⟩, fun hw => hw.2⟩
  · next h =>
    rw [Bool.and_eq_true, Option.isNone_iff_eq_none] at h
    exact iff_of_false List.not_mem_nil fun hw => h hw.1

/-- A type with one property, all of its names ordinary ones. -/
theorem exists_convert_person :
    ∃ conversion, TypeDeclaration.convert
      { name := "com.example.Person", properties := [{ getter := "getAge", type := "int" }] } =
        .ok conversion := by
  have hpackage : ((TypeDeclaration.convert
      { name := "com.example.Person"
        properties := [{ getter := "getAge", type := "int" }] }).toOption.map
          (·.blueprint.target.package)) = some "com.example" := by
    decide +kernel
  obtain ⟨conversion, hconvert, -⟩ := map_toOption_eq_some_iff.1 hpackage
  exact ⟨conversion, hconvert⟩

end TypeDeclaration

/-- A declaration is converted exactly if it is valid, and otherwise the error reports the first
condition that it violates.  The missing factory of a serializer is no error: the serializer is left
out with a warning, so the blueprint of a class with a serializer has a factory. -/
theorem declarations_accepted_iff_valid (declaration : TypeDeclaration) :
    ((∃ conversion, declaration.convert = .ok conversion) ↔ declaration.IsValid) ∧
      (∀ e, declaration.convert = .error e ↔ declaration.Violates e) ∧
      (∀ target, declaration.convert ≠ .error (.inconsistent (.missingFactory target))) ∧
      ∀ conversion, declaration.convert = .ok conversion →
        ((∃ name, .serializerOmitted name ∈ conversion.warnings) ↔
            declaration.gwtSerializable = true ∧ declaration.builder.factory = none) ∧
          (conversion.blueprint.gwtSerializable = true →
            ∃ factory, declaration.builder.factory = some factory ∧
              conversion.blueprint.factory = some factory ∧
                conversion.blueprint.gwtCompatible = true) := by
  refine ⟨?accepts, ?fails, ?never, ?serializer⟩
  case accepts => exact TypeDeclaration.exists_convert_eq_ok_iff
  case fails => exact fun e => TypeDeclaration.convert_eq_error_iff_violates
  case never =>
    intro target h
    cases TypeDeclaration.convert_eq_error_iff_violates.1 h
  case serializer =>
    intro conversion hconvert
    obtain ⟨target, scope, types, -, -, hcheck, hwarnings⟩ :=
      TypeDeclaration.convert_eq_ok_iff.1 hconvert
    have hplan := Draft.isPlanOf_of_check hcheck
    constructor
    · rw [hwarnings]
      constructor
      · rintro ⟨name, hname⟩
        exact (TypeDeclaration.mem_warnings_iff.1 hname).1
      · exact fun h => ⟨_, TypeDeclaration.mem_warnings_iff.2 ⟨h, rfl⟩⟩
    · intro hserializes
      rw [hplan.gwtSerializable] at hserializes
      obtain ⟨-, factory, hfactory⟩ :=
        TypeDeclaration.factory_of_gwtSerializable_draft hserializes
      refine ⟨factory, hfactory, hplan.factory.trans hfactory, ?_⟩
      rw [hplan.gwtCompatible]
      exact Bool.or_eq_true_iff.2 (.inr hserializes)

/-- A type whose serializer is made with the help of its builder's constructor. -/
theorem declarations_accepted_iff_valid_serializer :
    let declaration : TypeDeclaration :=
      { name := "com.example.Person"
        gwtSerializable := true
        properties := [{ getter := "getAge", type := "int" }] }
    ∃ conversion, declaration.convert = .ok conversion ∧
      conversion.blueprint.gwtSerializable = true ∧
        (¬∃ name, .serializerOmitted name ∈ conversion.warnings) ∧
          conversion.blueprint.gwtCompatible = true := by
  intro declaration
  have hserializes : (declaration.convert.toOption.map (·.blueprint.gwtSerializable)) =
      some true := by
    decide +kernel
  obtain ⟨conversion, hconvert, hgwt⟩ := map_toOption_eq_some_iff.1 hserializes
  obtain ⟨-, -, -, h⟩ := declarations_accepted_iff_valid declaration
  obtain ⟨hwarning, hfactory⟩ := h conversion hconvert
  obtain ⟨factory, -, -, hcompatible⟩ := hfactory hgwt
  refine ⟨conversion, hconvert, hgwt, ?_, hcompatible⟩
  rw [hwarning]
  rintro ⟨-, hnone⟩
  cases hnone

end ValueBuilder
