import ValueBuilder.Proofs.Declaration.ClassNames
import ValueBuilder.Proofs.Generation.RawPaths

/-!
# Names that templates write themselves

Templates name a few classes of `java.lang` by their own text.  The names of a unit take no note of
them, so they are free for other classes.

* `Blueprint.free_iff_of_mem_literalNames`: only the builder can reserve such a name.
* `Blueprint.exists_type_of_literalName`: another class of such a name comes from the type of a
  property.
* `literal_names_imported_iff`: it is imported if it is named first.  `literal_name_imported_object`
  is such a type.
-/

namespace ValueBuilder

open Java

/-- The simple names of classes of `java.lang` that are part of the text of templates. -/
def Blueprint.literalNames : List String :=
  ["Object", "String", "Override", "UnsupportedOperationException"]

namespace Blueprint

variable {declaration : TypeDeclaration} {conversion : Conversion} {name : String}

/-- No member class but the builder has the name of a class that templates name. -/
theorem free_iff_of_mem_literalNames (h : declaration.convert = .ok conversion)
    (hname : name ∈ literalNames) :
    (∀ m ∈ conversion.blueprint.memberClasses, m.simpleName ≠ name) ↔
      declaration.builder.name ≠ name := by
  have hdisjoint : ∀ name ∈ literalNames, name ∉ memberNames := by decide
  exact TypeDeclaration.free_iff_of_notMem_memberNames h (hdisjoint name hname)

/-- Where a class of such a name would have to be imported, the type of a property names it. -/
theorem exists_type_of_literalName (h : declaration.convert = .ok conversion) {c : ClassName}
    (hc : conversion.blueprint.Mentions c) (hname : c.outermost ∈ literalNames)
    {table : NameTable} (htable : table.package = conversion.blueprint.target.package)
    (hsees : table.seesWithoutImport c = false) :
    ∃ p ∈ conversion.blueprint.properties, c ∈ p.type.classes := by
  simp only [NameTable.seesWithoutImport, Bool.or_eq_false_iff, beq_eq_false_iff_ne] at hsees
  obtain ⟨⟨hpackage, -⟩, hlanguage⟩ := hsees
  rcases TypeDeclaration.mentions_cases h hc with htarget | hlibrary | hboxed | htype
  · exact absurd (htarget.trans htable.symm) hpackage
  · have hlanguageOnly : ∀ c ∈ Library.classes, c.outermost ∉ literalNames := by decide
    exact absurd hname (hlanguageOnly c hlibrary)
  · rw [hlanguage] at hboxed
    cases hboxed
  · exact htype

/-- The first class that needs a free name is imported if it cannot be seen. -/
theorem qualifiedName_mem_imports_of_first {b : Blueprint} {generator : String}
    {level : SourceLevel} {c : ClassName}
    (hfree : ∀ m ∈ b.memberClasses, m.simpleName ≠ c.outermost)
    (hfirst : (Code.classes (b.classCode generator level)).find? (·.outermost == c.outermost) =
      some c)
    (hsees : (b.nameTable generator level).seesWithoutImport c = false) :
    c.topLevelClass.qualifiedName ∈ (b.nameTable generator level).imports := by
  have howner : (b.nameTable generator level).owner? c.outermost = some c.topLevelClass := by
    rw [nameTable, NameTable.owner?_ofRun_of_free _ _ hfree, hfirst]
    rfl
  exact NameTable.mem_imports_ofRun_iff.2
    ⟨c, List.mem_of_find?_eq_some hfirst, hfree, howner, hsees, rfl⟩

end Blueprint

/-- In the file of a declared type, an import ends in the name of a class that templates name
themselves exactly if the builder has another name and the first class of that name in the code is
one of another package.  The type of a property names it then. -/
theorem literal_names_imported_iff {declaration : TypeDeclaration} {conversion : Conversion}
    (hconvert : declaration.convert = .ok conversion) (generator : String) (level : SourceLevel) :
    let b := conversion.blueprint
    ∃ u table, b.write generator (.ofPackage b.target.package level) = .ok u ∧
      u.spelling = .importing table ∧
      ∀ name ∈ Blueprint.literalNames,
        (∃ text ∈ table.imports, lastPart '.' text = name) ↔
          declaration.builder.name ≠ name ∧
            ∃ c, (Code.classes (b.classCode generator level)).find? (·.outermost == name) = some c ∧
              table.seesWithoutImport c = false ∧ ∃ p ∈ b.properties, c ∈ p.type.classes := by
  intro b
  have htable : (b.nameTable generator level).package = b.target.package :=
    NameTable.package_ofRun _ _ _
  refine ⟨_, _, b.write_ofPackage generator level, rfl, fun name hname => ⟨?_, ?_⟩⟩
  · rintro ⟨text, himport, hlast⟩
    obtain ⟨c, hc, hfree, howner, hsees, rfl⟩ := NameTable.mem_imports_ofRun_iff.1 himport
    have hnamed := TypeDeclaration.isNamed_of_mentions hconvert
      (Blueprint.mentions_of_mem_classes hc)
    rw [lastPart_topLevelClass (NameTable.package_ne_empty hsees) hnamed.dot_notMem_outermost]
      at hlast
    rw [NameTable.owner?_ofRun_of_free _ _ hfree, hlast] at howner
    obtain ⟨d, hfind, htop⟩ := Option.map_eq_some_iff.1 howner
    obtain ⟨hpackage, houtermost⟩ := ClassName.topLevelClass_eq_iff.1 htop
    have hunseen : (b.nameTable generator level).seesWithoutImport d = false :=
      (NameTable.seesWithoutImport_congr hpackage).trans hsees
    have htype := Blueprint.exists_type_of_literalName hconvert
      (Blueprint.mentions_of_mem_classes (List.mem_of_find?_eq_some hfind))
      (by rwa [houtermost, hlast]) htable hunseen
    rw [hlast] at hfree
    have hbuilder := (Blueprint.free_iff_of_mem_literalNames hconvert hname).1 hfree
    exact ⟨hbuilder, d, hfind, hunseen, htype⟩
  · rintro ⟨hbuilder, c, hfind, hsees, -⟩
    obtain rfl : c.outermost = name := by simpa using List.find?_some hfind
    have hfree := (Blueprint.free_iff_of_mem_literalNames hconvert hname).2 hbuilder
    have hnamed := TypeDeclaration.isNamed_of_mentions hconvert
      (Blueprint.mentions_of_mem_classes (List.mem_of_find?_eq_some hfind))
    exact ⟨_, Blueprint.qualifiedName_mem_imports_of_first hfree hfind hsees,
      lastPart_topLevelClass (NameTable.package_ne_empty hsees) hnamed.dot_notMem_outermost⟩

/-- A type of an ordinary name. -/
theorem literal_names_imported_iff_person :
    let declaration : TypeDeclaration :=
      { name := "com.example.Person", properties := [{ getter := "getAge", type := "int" }] }
    ∃ conversion, declaration.convert = .ok conversion ∧
      ∃ u table, conversion.blueprint.write "generator"
          (.ofPackage conversion.blueprint.target.package .java6) = .ok u ∧
        u.spelling = .importing table ∧
        ∀ name ∈ Blueprint.literalNames,
          (∃ text ∈ table.imports, lastPart '.' text = name) ↔
            declaration.builder.name ≠ name ∧
              ∃ c, (Code.classes (conversion.blueprint.classCode "generator" .java6)).find?
                    (·.outermost == name) = some c ∧
                table.seesWithoutImport c = false ∧
                  ∃ p ∈ conversion.blueprint.properties, c ∈ p.type.classes := by
  intro declaration
  obtain ⟨conversion, hconvert⟩ := TypeDeclaration.exists_convert_person
  exact ⟨conversion, hconvert, literal_names_imported_iff hconvert "generator" .java6⟩

/-- A type with a property of a class of another package that is named like one of `java.lang`.
That class is imported, so the name in the header of `equals` means it as well. -/
theorem literal_name_imported_object :
    let declaration : TypeDeclaration :=
      { name := "com.example.Person"
        properties := [{ getter := "getThing", type := "com.other.Object" }] }
    ∃ conversion, declaration.convert = .ok conversion ∧
      ∃ u table, conversion.blueprint.write "generator"
          (.ofPackage conversion.blueprint.target.package .java6) = .ok u ∧
        u.spelling = .importing table ∧
        ∃ text ∈ table.imports, lastPart '.' text ∈ Blueprint.literalNames := by
  intro declaration
  have hfields : (declaration.convert.toOption.map fun conversion =>
      (conversion.blueprint.target.package,
        (Code.classes (conversion.blueprint.classCode "generator" .java6)).find?
          (·.outermost == "Object"))) =
      some ("com.example", some ⟨"com.other", "Object", []⟩) := by
    decide +kernel
  obtain ⟨conversion, hconvert, hfields⟩ := map_toOption_eq_some_iff.1 hfields
  simp only [Prod.mk.injEq] at hfields
  obtain ⟨hpackage, hfirst⟩ := hfields
  have hbuilder : declaration.builder.name ≠ "Object" := by decide
  have hfree : ∀ m ∈ conversion.blueprint.memberClasses, m.simpleName ≠ "Object" :=
    (Blueprint.free_iff_of_mem_literalNames hconvert (by decide)).2 hbuilder
  have hsees : (conversion.blueprint.nameTable "generator" .java6).seesWithoutImport
      ⟨"com.other", "Object", []⟩ = false := by
    rw [NameTable.seesWithoutImport, Blueprint.nameTable, NameTable.package_ofRun, hpackage]
    decide
  exact ⟨conversion, hconvert, _, _, conversion.blueprint.write_ofPackage "generator" .java6, rfl,
    _, Blueprint.qualifiedName_mem_imports_of_first hfree hfirst hsees, by decide⟩

end ValueBuilder
