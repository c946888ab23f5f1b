import ValueBuilder.Proofs.Builder.NamedClasses
import ValueBuilder.Proofs.Declaration.Conversion
import ValueBuilder.Proofs.Java.ClassNames
import ValueBuilder.Proofs.Java.TypeParsing

/-!
# The classes of a declared type

Every name in a declaration is read as a class name or as a type expression, so the simple names of
all classes that come from it are identifiers.

* `TypeScope.isNamed_of_parse` says so of the types of the properties, by recursion on the text of
  a type.
* `TypeDeclaration.mentions_cases`: the elements of a collection are of the type of the property or
  of `Object`, so a class that the code names comes from a type, or its place is known.
* `TypeDeclaration.isNamed_of_mentions` puts both together.
-/

namespace ValueBuilder

open Java

/-! ## Names of classes -/

namespace Java

/-- Whether the simple names of a class are identifiers. -/
def ClassName.IsNamed (c : ClassName) : Prop :=
  ∀ s ∈ c.names, isIdentifier s = true

namespace ClassName

variable {c : ClassName} {name : String}

instance (c : ClassName) : Decidable c.IsNamed :=
  inferInstanceAs (Decidable (∀ s ∈ c.names, isIdentifier s = true))

theorem IsNamed.outermost (h : c.IsNamed) : isIdentifier c.outermost = true :=
  h _ List.mem_cons_self

theorem IsNamed.dot_notMem_outermost (h : c.IsNamed) : '.' ∉ c.outermost.toList :=
  dot_notMem_of_isIdentifier h.outermost

theorem IsNamed.dot_notMem_simpleName (h : c.IsNamed) : '.' ∉ c.simpleName.toList :=
  dot_notMem_of_isIdentifier (h _ List.getLastD_mem_cons)

theorem isNamed_topLevel (package : String) (h : isIdentifier name = true) :
    (topLevel package name).IsNamed :=
  List.forall_mem_singleton.2 h

theorem IsNamed.nested (h : c.IsNamed) (hname : isIdentifier name = true) :
    (c.nested name).IsNamed := by
  intro s hs
  rcases List.mem_append.1 (show s ∈ c.names ++ [name] from hs) with hs | hs
  · exact h s hs
  · rwa [List.mem_singleton.1 hs]

theorem isNamed_ofSegments {first : String} {rest : List String}
    (h : ∀ s ∈ first :: rest, isIdentifier s = true) : (ofSegments first rest).IsNamed := by
  obtain ⟨lower, hsegments, -⟩ := ofSegmentsBelow_split [] first rest
  intro s hs
  apply h
  rw [hsegments]
  exact List.mem_append_right _ hs

theorem isNamed_of_parse {text : String} (h : ClassName.parse text = .ok c) : c.IsNamed := by
  obtain ⟨segments, -, -, hnames⟩ := exists_package_of_parse h
  exact hnames

theorem isIdentifier_append {s t : String} (hs : isIdentifier s = true)
    (ht : t.toList.all isIdentifierPart = true) : isIdentifier (s ++ t) = true := by
  rw [isIdentifier] at hs ⊢
  rw [String.toList_append]
  cases hchars : s.toList with
  | nil =>
    rw [hchars] at hs
    cases hs
  | cons c cs =>
    rw [hchars, spellsIdentifier, Bool.and_eq_true] at hs
    rw [List.cons_append, spellsIdentifier, List.all_append, hs.1, hs.2, ht]
    rfl

/-- The joined simple names of a class are an identifier. -/
theorem IsNamed.flatName (h : c.IsNamed) : isIdentifier c.flatName = true := by
  have hjoined (first : String) (rest : List String)
      (h : ∀ s ∈ first :: rest, isIdentifier s = true) :
      isIdentifier ("_".intercalate (first :: rest)) = true := by
    induction rest generalizing first with
    | nil => simpa using h
    | cons next rest ih =>
      obtain ⟨hfirst, hrest⟩ := List.forall_mem_cons.1 h
      rw [String.intercalate_cons_cons]
      refine isIdentifier_append (isIdentifier_append hfirst (by decide)) ?_
      exact all_isIdentifierPart_of_spellsIdentifier (ih next hrest)
  exact hjoined c.outermost c.inner h

end ClassName

/-! ## Types that are read -/

namespace TypeScope

variable {scope : TypeScope}

/-- Whether the simple names of the imported classes are identifiers. -/
def IsNamed (scope : TypeScope) : Prop :=
  ∀ c ∈ scope.imports, c.IsNamed

theorem IsNamed.lookup (h : scope.IsNamed) {name : String} (hname : isIdentifier name = true) :
    (scope.lookup name).IsNamed := by
  rw [TypeScope.lookup]
  split
  · next imported hfind => exact h imported (List.mem_reverse.1 (List.mem_of_find?_eq_some hfind))
  · split
    · exact ClassName.isNamed_topLevel languagePackage hname
    · exact ClassName.isNamed_topLevel scope.package hname

theorem IsNamed.resolve (h : scope.IsNamed) {first : String} {others : List String}
    (hnames : ∀ s ∈ first :: others, isIdentifier s = true) :
    (scope.resolve first others).IsNamed := by
  obtain ⟨hfirst, hothers⟩ := List.forall_mem_cons.1 hnames
  rw [TypeScope.resolve]
  split
  · apply List.foldlRecOn (motive := ClassName.IsNamed) _ _ (h.lookup hfirst)
    intro c hc name hname
    exact hc.nested (hothers name hname)
  · exact ClassName.isNamed_ofSegments hnames

/-- Whether the classes that a scope makes of identifiers are of a kind. -/
def ResolvesTo (scope : TypeScope) (kind : ClassName → Prop) : Prop :=
  ∀ first others, (∀ s ∈ first :: others, isIdentifier s = true) → kind (scope.resolve first others)

end TypeScope

namespace Grammar

variable {scope : TypeScope} {kind : ClassName → Prop} {cs rest : List Char} {t u : JavaType}
  {args : List JavaType}

theorem Suffixes.classes_eq (h : Suffixes t cs u rest) : u.classes = t.classes := by
  induction h with
  | none => rfl
  | array _ _ _ ih => exact ih

mutual

/-- The classes of a type expression are those that the scope makes of its names. -/
theorem TypeText.forall_classes (hscope : scope.ResolvesTo kind) {cs rest : List Char}
    {t : JavaType} (h : TypeText scope cs t rest) : ∀ c ∈ t.classes, kind c := by
  match h with
  | .primitive _ _ hsuffixes =>
    rw [hsuffixes.classes_eq]
    simp [JavaType.classes]
  | .declared _ hname _ hargs hsuffixes =>
    rw [hsuffixes.classes_eq, JavaType.classes, List.forall_mem_cons]
    exact ⟨hscope _ _ hname.identifiers, hargs.forall_classes hscope⟩

theorem Arguments.forall_classes (hscope : scope.ResolvesTo kind) {cs rest : List Char}
    {args : List JavaType} (h : Arguments scope cs args rest) :
    ∀ c ∈ JavaType.classesOfArgs args, kind c := by
  match h with
  | .none => simp [JavaType.classesOfArgs]
  | .some _ harg hmore =>
    rw [JavaType.classesOfArgs, List.forall_mem_append]
    exact ⟨harg.forall_classes hscope, hmore.forall_classes hscope⟩

theorem MoreArguments.forall_classes (hscope : scope.ResolvesTo kind) {cs rest : List Char}
    {args : List JavaType} (h : MoreArguments scope cs args rest) :
    ∀ c ∈ JavaType.classesOfArgs args, kind c := by
  match h with
  | .close _ => simp [JavaType.classesOfArgs]
  | .comma _ harg hmore =>
    rw [JavaType.classesOfArgs, List.forall_mem_append]
    exact ⟨harg.forall_classes hscope, hmore.forall_classes hscope⟩

theorem Argument.forall_classes (hscope : scope.ResolvesTo kind) {cs rest : List Char}
    {t : JavaType} (h : Argument scope cs t rest) : ∀ c ∈ t.classes, kind c := by
  match h with
  | .unbounded _ _ => simp [JavaType.classes]
  | .extending _ _ _ hbound | .superOf _ _ _ hbound => exact hbound.forall_classes hscope
  | .type htype _ => exact htype.forall_classes hscope

end

end Grammar

/-- All classes in a type that was read are of a kind if the scope makes only such classes. -/
theorem TypeScope.ResolvesTo.of_parse {scope : TypeScope} {kind : ClassName → Prop}
    (hscope : scope.ResolvesTo kind) {text : String} {t : JavaType} (h : scope.parse text = .ok t) :
    ∀ c ∈ t.classes, kind c := by
  obtain ⟨rest, htype, -⟩ := Grammar.parse_eq_ok_iff_denotes.1 h
  exact htype.forall_classes hscope

/-- The simple names of the classes in a type that was read are identifiers. -/
theorem TypeScope.isNamed_of_parse {scope : TypeScope} {text : String} {t : JavaType}
    (hscope : scope.IsNamed) (h : scope.parse text = .ok t) : ∀ c ∈ t.classes, c.IsNamed :=
  ResolvesTo.of_parse (fun _ _ => hscope.resolve) h

/-! ## Bounds -/

namespace JavaType

variable {t : JavaType} {c : ClassName}

theorem mem_classesOfArgs {args : List JavaType} :
    c ∈ classesOfArgs args ↔ ∃ arg ∈ args, c ∈ arg.classes := by
  induction args with
  | nil => simp [classesOfArgs]
  | cons arg rest ih => simp [classesOfArgs, ih]

theorem mem_classes_upperBound (h : c ∈ t.upperBound.classes) :
    c ∈ t.classes ∨ c = objectClass := by
  induction t using upperBound.induct with
  | case1 bound ih => exact ih h
  | case2 | case3 bound =>
    exact .inr (by simpa [upperBound, ofClass, classes, classesOfArgs] using h)
  | case4 t h1 h2 h3 =>
    left
    cases t <;> first | exact h | simp_all

/-- A class of a bound is a class of the type, or `Object`. -/
theorem mem_classes_argumentBound {index : Nat} (h : c ∈ (t.argumentBound index).classes) :
    c ∈ t.classes ∨ c = objectClass := by
  rw [argumentBound] at h
  split at h
  · next arg harg =>
    have hmem := List.mem_of_getElem? harg
    refine (mem_classes_upperBound h).imp_left fun hc => ?_
    cases t with
    | declared d args => exact List.mem_cons_of_mem _ (mem_classesOfArgs.2 ⟨arg, hmem, hc⟩)
    | _ => cases hmem
  · exact .inr (by simpa [ofClass, classes, classesOfArgs] using h)

end JavaType

end Java

/-! ## Strategies -/

/-- The elements of a container are of a type argument of its type. -/
theorem Strategy.exists_argumentBound_of_bind {r : Request} {t : JavaType}
    (h : t ∈ (bind r).elementTypes) : ∃ index, t = r.declared.argumentBound index := by
  simp only [bind, rules, List.findSome?_cons, bindList?, bindSet?, bindMap?, bindOptional?] at h
  split_ifs at h <;> simp [elementTypes, Element.ofType, bindPlain] at h
  all_goals first
    | exact ⟨0, h⟩
    | exact h.elim (⟨0, ·⟩) (⟨1, ·⟩)

/-! ## Blueprints -/

/-- If the names of a blueprint and the types of its properties are made of identifiers, so are the
names of all classes in its code. -/
theorem Blueprint.Mentions.isNamed {b : Blueprint} {c : ClassName} (hc : b.Mentions c)
    (htarget : b.target.IsNamed) (hbuilder : b.builder.IsNamed) (hgenerated : b.generated.IsNamed)
    (htypes : ∀ p ∈ b.properties, ∀ d ∈ p.type.classes, d.IsNamed)
    (helements : ∀ p ∈ b.properties, ∀ t ∈ p.strategy.elementTypes, ∀ d ∈ t.classes, d.IsNamed) :
    c.IsNamed := by
  cases hc with
  | target => exact htarget
  | builder => exact hbuilder
  | generated => exact hgenerated
  | member hm =>
    rcases eq_builder_or_nested_of_mem_memberClasses hm with rfl | ⟨name, hname, rfl⟩
    · exact hbuilder
    · have hidentifiers : ∀ name ∈ memberNames, isIdentifier name = true := by decide
      exact hgenerated.nested (hidentifiers name hname)
  | library hc =>
    have hlibrary : ∀ d ∈ Library.classes, d.IsNamed := by
      simp only [Library.classes, List.forall_mem_cons]
      and_intros <;> decide
    exact hlibrary c hc
  | box p => cases p <;> exact ClassName.isNamed_topLevel _ (by decide)
  | type hp hc => exact htypes _ hp c hc
  | element hp ht hc => exact helements _ hp _ ht c hc

/-! ## Converted declarations -/

namespace TypeDeclaration

variable {declaration : TypeDeclaration} {conversion : Conversion}

/-- A name that no class is declared under inside a generated class can only be that of the
builder. -/
theorem free_iff_of_notMem_memberNames (h : declaration.convert = .ok conversion) {name : String}
    (hname : name ∉ Blueprint.memberNames) :
    (∀ m ∈ conversion.blueprint.memberClasses, m.simpleName ≠ name) ↔
      declaration.builder.name ≠ name := by
  have hbuilder : conversion.blueprint.builder.simpleName = declaration.builder.name := by
    rw [(names_of_convert h).1, ClassName.simpleName_nested]
  constructor
  · intro hfree
    rw [← hbuilder]
    exact hfree _ (by simp [Blueprint.memberClasses])
  · intro hne m hm
    rcases Blueprint.eq_builder_or_nested_of_mem_memberClasses hm with rfl | ⟨member, hmember, rfl⟩
    · rwa [hbuilder]
    · rw [ClassName.simpleName_nested]
      rintro rfl
      exact hname hmember

/-- The imports of a declaration are read as class names. -/
theorem ReadsNames.isNamed {target : ClassName} {scope : TypeScope}
    (h : declaration.ReadsNames target scope) : scope.IsNamed := by
  intro c hc
  obtain ⟨name, -, hparse⟩ := exists_mem_of_forall₂ h.imports hc
  exact ClassName.isNamed_of_parse hparse

/-- A property of a converted declaration follows from a getter and the type that was read for
it. -/
theorem exists_ofGetter_of_convert (h : declaration.convert = .ok conversion) {p : Property}
    (hp : p ∈ conversion.blueprint.properties) :
    ∃ scope, declaration.ReadsNames conversion.blueprint.target scope ∧
      ∃ property : PropertyDeclaration, ∃ type name, property.Reads scope type ∧
        p = .ofGetter name property.getter type property.hasDefault := by
  obtain ⟨target, scope, types, hnames, htypes, hcheck, -⟩ := convert_eq_ok_iff.1 h
  have hplan := Draft.isPlanOf_of_check hcheck
  have hproperties : conversion.blueprint.properties = declaration.derived types :=
    hplan.properties
  have htarget : conversion.blueprint.target = target := hplan.target
  rw [hproperties, derived, propertiesOf, ← List.map_uncurry_zip_eq_zipWith] at hp
  obtain ⟨⟨⟨property, type⟩, name⟩, hmem, rfl⟩ := List.mem_map.1 hp
  have hread := (List.forall₂_iff_zip.1 htypes).2 (List.of_mem_zip hmem).1
  exact ⟨scope, htarget ▸ hnames, property, type, name, hread, rfl⟩

/-- A class that the code of a declared type names is of its package, of the library or of the
language, or it stands in the type of a property. -/
theorem mentions_cases (h : declaration.convert = .ok conversion) {c : ClassName}
    (hc : conversion.blueprint.Mentions c) :
    c.package = conversion.blueprint.target.package ∨ c ∈ Library.classes ∨
      c.isLanguageClass = true ∨ ∃ p ∈ conversion.blueprint.properties, c ∈ p.type.classes := by
  obtain ⟨hbuilder, hgenerated⟩ := names_of_convert h
  have hpackage : conversion.blueprint.generated.package = conversion.blueprint.target.package := by
    rw [hgenerated]
    rfl
  cases hc with
  | target => exact .inl rfl
  | builder =>
    rw [hbuilder]
    exact .inl rfl
  | generated => exact .inl hpackage
  | member hm =>
    left
    rcases Blueprint.eq_builder_or_nested_of_mem_memberClasses hm with rfl | ⟨name, -, rfl⟩
    · rw [hbuilder]
      rfl
    · exact hpackage
  | library hc => exact .inr (.inl hc)
  | box p => exact .inr (.inr (.inl (by cases p <;> rfl)))
  | type hp hc => exact .inr (.inr (.inr ⟨_, hp, hc⟩))
  | element hp ht hc =>
    obtain ⟨scope, -, property, type, name, -, rfl⟩ := exists_ofGetter_of_convert h hp
    obtain ⟨index, rfl⟩ := Strategy.exists_argumentBound_of_bind ht
    rcases JavaType.mem_classes_argumentBound hc with hc | rfl
    · exact .inr (.inr (.inr ⟨_, hp, hc⟩))
    · exact .inr (.inr (.inl rfl))

/-- All simple names of the classes that the code of a declared type names are identifiers. -/
theorem isNamed_of_mentions (h : declaration.convert = .ok conversion) {c : ClassName}
    (hc : conversion.blueprint.Mentions c) : c.IsNamed := by
  obtain ⟨hbuilder, hgenerated⟩ := names_of_convert h
  have htarget : conversion.blueprint.target.IsNamed :=
    ClassName.isNamed_of_parse (parse_name_of_convert h)
  refine hc.isNamed htarget ?builder ?generated ?types ?elements
  case builder =>
    obtain ⟨target, scope, types, hnames, -⟩ := convert_eq_ok_iff.1 h
    rw [hbuilder]
    exact htarget.nested hnames.builderName
  case generated =>
    rw [hgenerated]
    exact ClassName.isNamed_topLevel _ (ClassName.isIdentifier_append htarget.flatName (by decide))
  case types =>
    intro p hp
    obtain ⟨scope, hnames, property, type, name, hread, rfl⟩ := exists_ofGetter_of_convert h hp
    exact TypeScope.isNamed_of_parse hnames.isNamed hread.type
  case elements =>
    intro p hp t ht c hc
    obtain ⟨scope, hnames, property, type, name, hread, rfl⟩ := exists_ofGetter_of_convert h hp
    obtain ⟨index, rfl⟩ := Strategy.exists_argumentBound_of_bind ht
    rcases JavaType.mem_classes_argumentBound hc with hc | rfl
    · exact TypeScope.isNamed_of_parse hnames.isNamed hread.type c hc
    · exact ClassName.isNamed_topLevel _ (by decide)

end TypeDeclaration

end ValueBuilder
