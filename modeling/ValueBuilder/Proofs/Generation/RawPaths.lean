import ValueBuilder.Proofs.Builder.NamedClasses
import ValueBuilder.Proofs.Builder.References
import ValueBuilder.Proofs.Builder.WrittenUnits
import ValueBuilder.Proofs.Declaration.Conversion
import ValueBuilder.Proofs.Java.ClassNames
import ValueBuilder.Proofs.Source.ReservedNames

/-!
# Paths that are written as they are

Most classes are spelled as the unit names them.  The enum of required properties and the class of
an expression that makes a builder are written by their paths, with no regard to the unit's names.

* `Blueprint.write_ofPackage` is the unit that a class makes, with the names that it gives.
* `Blueprint.shorten_nameTable_eq_nestedPath_iff` says when the unit spells a class by its path, for
  the classes that a declared type can put into the text by one.
* `raw_paths_agree_iff`: so the two ways to write a class agree unless the type has the name of a
  member class.  `raw_path_ne_spelling_property` is such a type.
-/

namespace ValueBuilder

open Java

/-- How code writes a class: as the unit spells it, or by a path that stands there as it is. -/
inductive Code.Writes (spelling : Spelling) (code : Code) : ClassName → String → Prop
  | spelled {c : ClassName} (hc : c ∈ code.classes) : Code.Writes spelling code c (spelling.spell c)
  | raw {c : ClassName} {s : Statement} {w : Word} (hs : s ∈ code) (hw : .word w ∈ s.pieces)
    (hpath : w.path? = some c) : Code.Writes spelling code c c.nestedPath

theorem Spelling.shorten_importing (table : NameTable) (c : ClassName) :
    ((importing table).shorten c).1 = (table.mention c).spell c :=
  rfl

namespace Blueprint

variable {b : Blueprint} {generator : String} {level : SourceLevel}

/-! ## The names of a unit -/

/-- The table of names that a class leaves behind in a unit of its own. -/
def nameTable (generator : String) (level : SourceLevel) (b : Blueprint) : NameTable :=
  .ofRun b.target.package b.memberClasses (Code.classes (b.classCode generator level))

/-- The unit that a class makes in its package. -/
def unit (generator : String) (level : SourceLevel) (b : Blueprint) : SourceUnit :=
  ⟨(b.classCode generator level).text (.importing (b.nameTable generator level)),
    .importing (b.nameTable generator level), level, none⟩

theorem write_ofPackage (generator : String) (level : SourceLevel) (b : Blueprint) :
    b.write generator (.ofPackage b.target.package level) = .ok (b.unit generator level) :=
  b.write_inPackage b.target.package generator level

theorem exists_write_ofPackage_eq (generator : String) (level : SourceLevel) (b : Blueprint) :
    ∃ u, b.write generator (.ofPackage b.target.package level) = .ok u ∧
      u.spelling = .importing (b.nameTable generator level) :=
  ⟨_, b.write_ofPackage generator level, rfl⟩

/-- The header names the builder and the target first, and soon the generated class. -/
theorem classes_classCode (generator : String) (level : SourceLevel) (b : Blueprint) :
    ∃ rest, Code.classes (b.classCode generator level) =
      b.builder :: b.target :: Library.generated ::
        ((if b.gwtCompatible then [Library.gwtCompatible] else []) ++ b.generated :: rest) := by
  obtain ⟨sections, hsections⟩ := b.sections_eq_cons
  have hheader : ∃ rest, Code.classes (b.header generator) =
      b.builder :: b.target :: Library.generated ::
        ((if b.gwtCompatible then [Library.gwtCompatible] else []) ++ b.generated :: rest) := by
    rw [header]
    cases b.gwtCompatible <;> cases b.serializable <;> exact ⟨_, rfl⟩
  obtain ⟨rest, hheader⟩ := hheader
  rw [classCode, hsections, List.flatMap_cons, Section.code, Code.classes_append, hheader]
  exact ⟨_, by rw [List.cons_append, List.cons_append, List.cons_append, List.append_assoc,
    List.cons_append]⟩

theorem own_mem_classes (generator : String) (level : SourceLevel) (b : Blueprint) :
    b.builder ∈ Code.classes (b.classCode generator level) ∧
      b.target ∈ Code.classes (b.classCode generator level) ∧
        b.generated ∈ Code.classes (b.classCode generator level) := by
  obtain ⟨rest, hclasses⟩ := b.classes_classCode generator level
  rw [hclasses]
  simp

/-- Whether the classes of a blueprint are named as those of a declared type. -/
structure NamedByDefault (b : Blueprint) : Prop where
  builder : ∃ name, b.builder = b.target.nested name
  generated : b.generated = defaultGenerated b.target

theorem inner_ne_nil_of_mem_memberClasses (hnames : b.NamedByDefault) {m : ClassName}
    (hm : m ∈ b.memberClasses) : m.inner ≠ [] := by
  rcases eq_builder_or_nested_of_mem_memberClasses hm with rfl | ⟨name, -, rfl⟩
  · obtain ⟨name, hbuilder⟩ := hnames.builder
    rw [hbuilder]
    exact List.append_ne_nil_of_right_ne_nil _ (List.cons_ne_nil name [])
  · exact List.append_ne_nil_of_right_ne_nil _ (List.cons_ne_nil name [])

/-- The generated class shares its name with no class that the header names before it. -/
theorem outermost_generated_ne (hnames : b.NamedByDefault) :
    b.target.outermost ≠ b.generated.outermost ∧ "Generated" ≠ b.generated.outermost ∧
      "GwtCompatible" ≠ b.generated.outermost := by
  have hgenerated : b.generated.outermost = b.target.flatName ++ "_Builder" := by
    rw [hnames.generated]
    rfl
  have hunderscore : '_' ∈ b.generated.outermost.toList := by
    rw [hgenerated, String.toList_append]
    exact List.mem_append_right _ (by decide)
  refine ⟨?_, ?_, ?_⟩
  · intro h
    have hlength := congrArg String.length (h.trans hgenerated)
    have hflat : b.target.outermost.length ≤ b.target.flatName.length := by
      rw [ClassName.flatName, ClassName.names]
      cases b.target.inner with
      | nil => simp
      | cons name inner =>
        rw [String.intercalate_cons_cons, String.length_append, String.length_append]
        omega
    have hsuffix : "_Builder".length = 8 := rfl
    rw [String.length_append, hsuffix] at hlength
    omega
  · intro h
    rw [← h] at hunderscore
    exact absurd hunderscore (by decide)
  · intro h
    rw [← h] at hunderscore
    exact absurd hunderscore (by decide)

/-! ## Paths and spellings -/

/-- A class that belongs to the target or is generated for it is spelled by its path exactly if no
member class has the name of its top-level class, or if there are no packages to tell it apart. -/
theorem shorten_nameTable_eq_nestedPath_iff (hnames : b.NamedByDefault) {c : ClassName}
    (hc : c.topLevelClass = b.target.topLevelClass ∨ c.topLevelClass = b.generated) :
    ((Spelling.importing (b.nameTable generator level)).shorten c).1 = c.nestedPath ↔
      c.package = "" ∨ ∀ m ∈ b.memberClasses, m.simpleName ≠ c.outermost := by
  obtain ⟨rest, hclasses⟩ := b.classes_classCode generator level
  rw [Spelling.shorten_importing, nameTable, NameTable.mention_ofRun, hclasses]
  by_cases hpackage : c.package = ""
  · have hqualified : c.qualifiedName = c.nestedPath := by simp [ClassName.qualifiedName, hpackage]
    rw [NameTable.spell, hqualified, ite_self]
    simp [hpackage]
  rw [NameTable.spell_eq_nestedPath_iff hpackage]
  simp only [hpackage, false_or]
  constructor
  · -- A reserved name is owned by a member class, which is no top-level class.
    intro howner m hm hname
    obtain ⟨member, hmember, hreserved⟩ :=
      NameTable.owner?_simpleName_ofRun b.target.package (_ ++ [c]) hm
    rw [hname, howner] at hreserved
    cases hreserved
    exact inner_ne_nil_of_mem_memberClasses hnames hmember rfl
  · -- Otherwise the first class that needs the name gets it, and the header names it early.
    intro hfree
    have hfirst (before behind : List ClassName) {named : List ClassName} {d : ClassName}
        (hnamed : named = before ++ d :: behind) (hd : d.topLevelClass = c.topLevelClass)
        (hbefore : ∀ e ∈ before, e.outermost ≠ c.outermost) :
        (NameTable.ofRun b.target.package b.memberClasses named).owner? c.outermost =
          some c.topLevelClass := by
      have houtermost : d.outermost = c.outermost := (ClassName.topLevelClass_eq_iff.1 hd).2
      rw [hnamed, ← houtermost, ← hd]
      rw [← houtermost] at hfree hbefore
      exact NameTable.owner?_ofRun_first hfree hbefore
    rcases hc with htarget | hgenerated
    · obtain ⟨name, hbuilder⟩ := hnames.builder
      have htop : b.builder.topLevelClass = c.topLevelClass := by
        rw [hbuilder, htarget]
        rfl
      exact hfirst [] (_ ++ [c]) rfl htop (by simp)
    · obtain ⟨htarget, hannotation, hcompatible⟩ := outermost_generated_ne hnames
      have htop : b.generated.topLevelClass = c.topLevelClass := by
        rw [hgenerated, hnames.generated]
        rfl
      have hname : c.outermost = b.generated.outermost :=
        (ClassName.topLevelClass_eq_iff.1 htop).2.symm
      have hbuilder : b.builder.outermost = b.target.outermost := by
        obtain ⟨name, hbuilder⟩ := hnames.builder
        rw [hbuilder]
        rfl
      refine hfirst (b.builder :: b.target :: Library.generated ::
        if b.gwtCompatible then [Library.gwtCompatible] else []) (rest ++ [c]) ?_ htop ?_
      · simp
      · rw [hname]
        simp only [List.forall_mem_cons, hbuilder]
        refine ⟨htarget, htarget, hannotation, ?_⟩
        cases b.gwtCompatible with
        | true => exact List.forall_mem_singleton.2 hcompatible
        | false => simp

/-- A path that stands in the code of a class as it is leads to the enum of required properties, or
is part of the expression that makes a builder. -/
theorem path_of_mem_pieces {s : Statement} {w : Word} {c : ClassName}
    (hs : s ∈ b.classCode generator level) (hw : .word w ∈ s.pieces) (hpath : w.path? = some c) :
    c = b.propertyEnum ∨
      ∃ factory, b.factory = some factory ∧ c = factory.namedClass b.builder b.target := by
  obtain ⟨part, -, hpart⟩ := List.mem_flatMap.1 hs
  have hreference : w.isReference = true := by
    cases w <;> first | rfl | cases hpath
  have hmem : w ∈ Code.references (part.code generator level b) :=
    List.mem_flatMap.2 ⟨s, hpart, Statement.mem_references hreference hw⟩
  exact b.mem_paths (List.mem_filterMap.2 ⟨w, hmem, hpath⟩)

/-- A builder that is cleared to a new one is cleared by the expression that makes it. -/
theorem newBuilder_mem_classCode {factory : Factory} (hfactory : b.factory = some factory)
    (hclears : b.clearsFromTemplate = true) :
    Statement.template "    %s %s = %s;" [b.generated, .name b.template, b.newBuilder factory] ∈
      b.classCode generator level := by
  refine List.mem_flatMap.2 ⟨.clear, ?_, ?_⟩
  · simp [sections, Section.all, Section.appliesTo]
  · simp [Section.code, clear, hfactory, clearToTemplate, hclears, joined]

/-- Where a path is written as it is, the code also names a class of the same top-level class. -/
theorem exists_mem_classes_of_writes {spelling : Spelling} {c : ClassName} {text : String}
    (h : Code.Writes spelling (b.classCode generator level) c text) :
    ∃ d ∈ Code.classes (b.classCode generator level), d.topLevelClass = c.topLevelClass := by
  obtain ⟨hbuilder, htarget, hgenerated⟩ := b.own_mem_classes generator level
  cases h with
  | spelled hc => exact ⟨c, hc, rfl⟩
  | raw hs hw hpath =>
    rcases path_of_mem_pieces hs hw hpath with rfl | ⟨factory, -, rfl⟩
    · exact ⟨b.generated, hgenerated, rfl⟩
    · cases factory with
      | constructor => exact ⟨b.builder, hbuilder, rfl⟩
      | builderMethod | newBuilderMethod => exact ⟨b.target, htarget, rfl⟩

end Blueprint

/-- In the file of a declared type, a path that is written as it is agrees with the spelling of the
same class exactly if no member class has the name of the path's top-level class.  In the default
package both are paths. -/
theorem raw_paths_agree_iff {declaration : TypeDeclaration} {conversion : Conversion}
    (hconvert : declaration.convert = .ok conversion) (generator : String) (level : SourceLevel) :
    let b := conversion.blueprint
    ∃ u, b.write generator (.ofPackage b.target.package level) = .ok u ∧
      ∀ s ∈ b.classCode generator level, ∀ w c, .word w ∈ s.pieces → w.path? = some c →
        (c.nestedPath = (u.spelling.shorten c).1 ↔
          c.package = "" ∨ ∀ m ∈ b.memberClasses, m.simpleName ≠ c.outermost) := by
  intro b
  obtain ⟨hbuilder, hgenerated⟩ := TypeDeclaration.names_of_convert hconvert
  have hnames : b.NamedByDefault := ⟨⟨_, hbuilder⟩, hgenerated⟩
  obtain ⟨u, hwrite, hspelling⟩ := Blueprint.exists_write_ofPackage_eq generator level b
  refine ⟨u, hwrite, fun s hs w c hw hpath => ?_⟩
  have hc : c.topLevelClass = b.target.topLevelClass ∨ c.topLevelClass = b.generated := by
    rcases Blueprint.path_of_mem_pieces hs hw hpath with rfl | ⟨factory, -, rfl⟩
    · right
      rw [Blueprint.propertyEnum, hgenerated]
      rfl
    · left
      cases factory with
      | constructor =>
        rw [Factory.namedClass, hbuilder]
        rfl
      | builderMethod => rfl
      | newBuilderMethod => rfl
  rw [hspelling, eq_comm]
  exact Blueprint.shorten_nameTable_eq_nestedPath_iff hnames hc

/-- A type of an ordinary name. -/
theorem raw_paths_agree_iff_person :
    let declaration : TypeDeclaration :=
      { name := "com.example.Person", properties := [{ getter := "getAge", type := "int" }] }
    ∃ conversion, declaration.convert = .ok conversion ∧
      ∃ u, conversion.blueprint.write "generator"
          (.ofPackage conversion.blueprint.target.package .java6) = .ok u ∧
        ∀ s ∈ conversion.blueprint.classCode "generator" .java6, ∀ w c, .word w ∈ s.pieces →
          w.path? = some c →
          (c.nestedPath = (u.spelling.shorten c).1 ↔
            c.package = "" ∨ ∀ m ∈ conversion.blueprint.memberClasses,
              m.simpleName ≠ c.outermost) := by
  intro declaration
  obtain ⟨conversion, hconvert⟩ := TypeDeclaration.exists_convert_person
  exact ⟨conversion, hconvert, raw_paths_agree_iff hconvert "generator" .java6⟩

/-- A type that shares its name with the enum of required properties.  To clear its builder, a new
one is made by a path that the file does not spell this class by: the path begins with the name of
the enum. -/
theorem raw_path_ne_spelling_property :
    let declaration : TypeDeclaration :=
      { name := "com.example.Property", properties := [{ getter := "getAge", type := "int" }] }
    ∃ conversion, declaration.convert = .ok conversion ∧
      ∃ u, conversion.blueprint.write "generator"
          (.ofPackage conversion.blueprint.target.package .java6) = .ok u ∧
        ∃ s ∈ conversion.blueprint.classCode "generator" .java6, ∃ w c, .word w ∈ s.pieces ∧
          w.path? = some c ∧ c.nestedPath = "Property.Builder" ∧
            (u.spelling.shorten c).1 = "com.example.Property.Builder" := by
  intro declaration
  have hfields : (declaration.convert.toOption.map fun conversion =>
      (conversion.blueprint.target, conversion.blueprint.builder, conversion.blueprint.factory,
        conversion.blueprint.hasRequired)) =
      some (⟨"com.example", "Property", []⟩, ⟨"com.example", "Property", ["Builder"]⟩,
        some .constructor, true) := by
    decide +kernel
  cases hconvert : declaration.convert with
  | error error =>
    rw [hconvert] at hfields
    cases hfields
  | ok conversion =>
    rw [hconvert] at hfields
    simp only [Except.toOption, Option.map_some, Option.some.injEq, Prod.mk.injEq] at hfields
    obtain ⟨htarget, hbuilder, hfactory, hrequired⟩ := hfields
    have hnames : conversion.blueprint.NamedByDefault :=
      ⟨⟨_, (TypeDeclaration.names_of_convert hconvert).1⟩,
        (TypeDeclaration.names_of_convert hconvert).2⟩
    refine ⟨conversion, rfl, ?_⟩
    generalize conversion.blueprint = b at *
    obtain ⟨u, hwrite, hspelling⟩ := Blueprint.exists_write_ofPackage_eq "generator" .java6 b
    have hmem : Statement.template "    %s %s = %s;"
        [b.generated, .name b.template, b.newBuilder .constructor] ∈
          b.classCode "generator" .java6 :=
      Blueprint.newBuilder_mem_classCode hfactory
        (by simp [Blueprint.clearsFromTemplate, hrequired])
    refine ⟨u, hwrite, _, hmem, _, b.builder, List.mem_of_getElem? (i := 10) rfl, rfl, ?_, ?_⟩
    · rw [hbuilder]
      decide
    · have hspelled : (u.spelling.shorten b.builder).1 ≠ b.builder.nestedPath := by
        have htop : b.builder.topLevelClass = b.target.topLevelClass := by
          rw [hbuilder, htarget]
          rfl
        rw [hspelling, ne_eq, Blueprint.shorten_nameTable_eq_nestedPath_iff hnames (.inl htop)]
        rintro (hpackage | hfree)
        · rw [hbuilder] at hpackage
          exact absurd hpackage (by decide)
        · refine hfree b.propertyEnum (by simp [Blueprint.memberClasses]) ?_
          rw [hbuilder, Blueprint.propertyEnum]
          simp [ClassName.simpleName, ClassName.nested]
      have hqualified : (u.spelling.shorten b.builder).1 = b.builder.nestedPath ∨
          (u.spelling.shorten b.builder).1 = b.builder.qualifiedName := by
        rw [hspelling, Spelling.shorten_importing, NameTable.spell]
        split
        · exact .inl rfl
        · exact .inr rfl
      rw [hqualified.resolve_left hspelled, hbuilder]
      decide

end ValueBuilder
