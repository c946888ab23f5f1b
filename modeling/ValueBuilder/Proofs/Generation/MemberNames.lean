import ValueBuilder.Proofs.Declaration.ClassNames
import ValueBuilder.Proofs.Generation.RawPaths

/-!
# Texts that begin like a member class

Inside a generated class, a text that begins with the simple name of a member class means that
member class.

* `Java.ClassName.leadsWith_nestedPath_iff` and `Java.ClassName.leadsWith_qualifiedName_iff`: a path
  begins with the name of its top-level class, and a qualified name begins like its package.
* `Blueprint.spell_ne_nestedPath_of_reserved`: the unit spells no class of a package by a path that
  begins with a reserved name.
* `member_names_confused_iff`: what is left are the classes of the default package, the paths that
  are written as they are, and packages that begin like a member class.
  `member_name_confused_value` is a type that has such a path.
-/

namespace ValueBuilder

open Java

namespace Java.ClassName

variable {c : ClassName} {name : String}

/-- A path begins with the name of its top-level class. -/
theorem leadsWith_nestedPath_iff (hname : '.' ∉ name.toList) (hdot : '.' ∉ c.outermost.toList) :
    LeadsWith name c.nestedPath ↔ c.outermost = name := by
  have hfirst : (parts '.' c.nestedPath).head? = some c.outermost := by
    rw [nestedPath, names]
    cases c.inner with
    | nil => rw [String.intercalate_singleton, parts_of_notMem hdot, List.head?_cons]
    | cons next inner =>
      rw [String.intercalate_cons_cons]
      exact (head?_parts_append _ _).trans (by rw [parts_of_notMem hdot, List.head?_cons])
  rw [leadsWith_iff hname, hfirst, Option.some_inj]

/-- A qualified name begins like its package. -/
theorem leadsWith_qualifiedName_iff (hname : '.' ∉ name.toList) (hpackage : c.package ≠ "") :
    LeadsWith name c.qualifiedName ↔ LeadsWith name c.package := by
  have hfirst : (parts '.' c.qualifiedName).head? = (parts '.' c.package).head? := by
    rw [qualifiedName, if_neg (by simpa using hpackage)]
    exact head?_parts_append _ _
  rw [leadsWith_iff hname, leadsWith_iff hname, hfirst]

theorem qualifiedName_of_package_eq (h : c.package = "") : c.qualifiedName = c.nestedPath := by
  simp [qualifiedName, h]

end Java.ClassName

/-- A class is written by its path or by its qualified name. -/
theorem Code.Writes.eq_nestedPath_or_qualifiedName {table : NameTable} {code : Code} {c : ClassName}
    {text : String} (h : Code.Writes (.importing table) code c text) :
    text = c.nestedPath ∨ text = c.qualifiedName := by
  cases h with
  | spelled hc =>
    rw [Spelling.spell, NameTable.spell]
    split
    · exact .inl rfl
    · exact .inr rfl
  | raw hs hw hpath => exact .inl rfl

namespace Blueprint

variable {b : Blueprint} {generator : String} {level : SourceLevel} {c m : ClassName}

/-- A class of a package is not spelled by a path that begins with a reserved name. -/
theorem spell_ne_nestedPath_of_reserved (hnames : b.NamedByDefault) (hm : m ∈ b.memberClasses)
    (hname : c.outermost = m.simpleName) (hpackage : c.package ≠ "") :
    (b.nameTable generator level).spell c ≠ c.nestedPath := by
  intro hspell
  rw [NameTable.spell_eq_nestedPath_iff hpackage, hname] at hspell
  obtain ⟨member, hmember, hreserved⟩ := NameTable.owner?_simpleName_ofRun b.target.package
    (Code.classes (b.classCode generator level)) hm
  have heq : member = c.topLevelClass := Option.some.inj (hreserved.symm.trans hspell)
  refine inner_ne_nil_of_mem_memberClasses hnames hmember ?_
  rw [heq]
  rfl

end Blueprint

/-- In the file of a declared type, a text for a class begins with the name of a member class in
three cases: it is the path of a class of the default package, it is a path that is written as it is
although the unit spells the class otherwise, or it is qualified and the package begins with that
name. -/
theorem member_names_confused_iff {declaration : TypeDeclaration} {conversion : Conversion}
    (hconvert : declaration.convert = .ok conversion) (generator : String) (level : SourceLevel) :
    let b := conversion.blueprint
    ∃ u, b.write generator (.ofPackage b.target.package level) = .ok u ∧
      ∀ c text, Code.Writes u.spelling (b.classCode generator level) c text →
        ∀ m ∈ b.memberClasses,
          (LeadsWith m.simpleName text ↔
            (text = c.nestedPath ∧ c.outermost = m.simpleName ∧
                (c.package = "" ∨ text ≠ u.spelling.spell c)) ∨
              (text ≠ c.nestedPath ∧ LeadsWith m.simpleName c.package)) := by
  intro b
  obtain ⟨hbuilder, hgenerated⟩ := TypeDeclaration.names_of_convert hconvert
  have hnames : b.NamedByDefault := ⟨⟨_, hbuilder⟩, hgenerated⟩
  refine ⟨_, b.write_ofPackage generator level, fun c text hc m hm => ?_⟩
  have hname : '.' ∉ m.simpleName.toList :=
    (TypeDeclaration.isNamed_of_mentions hconvert (.member hm)).dot_notMem_simpleName
  by_cases hpath : text = c.nestedPath
  · have hdot : '.' ∉ c.outermost.toList := by
      obtain ⟨d, hd, htop⟩ := Blueprint.exists_mem_classes_of_writes hc
      rw [← (ClassName.topLevelClass_eq_iff.1 htop).2]
      exact (TypeDeclaration.isNamed_of_mentions hconvert
        (Blueprint.mentions_of_mem_classes hd)).dot_notMem_outermost
    simp only [hpath, ClassName.leadsWith_nestedPath_iff hname hdot, true_and, ne_eq,
      not_true_eq_false, false_and, or_false, iff_self_and]
    intro houtermost
    by_cases hpackage : c.package = ""
    · exact .inl hpackage
    · exact .inr (Blueprint.spell_ne_nestedPath_of_reserved hnames hm houtermost hpackage).symm
  · have hqualified : text = c.qualifiedName :=
      hc.eq_nestedPath_or_qualifiedName.resolve_left hpath
    have hpackage : c.package ≠ "" := fun h =>
      hpath (hqualified.trans (ClassName.qualifiedName_of_package_eq h))
    simp only [hpath, false_and, false_or, ne_eq, not_false_eq_true, true_and]
    rw [hqualified, ClassName.leadsWith_qualifiedName_iff hname hpackage]

/-- A type of an ordinary name. -/
theorem member_names_confused_iff_person :
    let declaration : TypeDeclaration :=
      { name := "com.example.Person", properties := [{ getter := "getAge", type := "int" }] }
    ∃ conversion, declaration.convert = .ok conversion ∧
      ∃ u, conversion.blueprint.write "generator"
          (.ofPackage conversion.blueprint.target.package .java6) = .ok u ∧
        ∀ c text,
          Code.Writes u.spelling (conversion.blueprint.classCode "generator" .java6) c text →
          ∀ m ∈ conversion.blueprint.memberClasses,
            (LeadsWith m.simpleName text ↔
              (text = c.nestedPath ∧ c.outermost = m.simpleName ∧
                  (c.package = "" ∨ text ≠ u.spelling.spell c)) ∨
                (text ≠ c.nestedPath ∧ LeadsWith m.simpleName c.package)) := by
  intro declaration
  obtain ⟨conversion, hconvert⟩ := TypeDeclaration.exists_convert_person
  exact ⟨conversion, hconvert, member_names_confused_iff hconvert "generator" .java6⟩

/-- A type that shares its name with the class of finished values, and that has a method to make
builders.  The call of that method begins with the name of the member class. -/
theorem member_name_confused_value :
    let declaration : TypeDeclaration :=
      { name := "com.example.Value"
        builder := { factory := some .builderMethod }
        properties := [{ getter := "getAge", type := "int" }] }
    ∃ conversion, declaration.convert = .ok conversion ∧
      ∃ u, conversion.blueprint.write "generator"
          (.ofPackage conversion.blueprint.target.package .java6) = .ok u ∧
        ∃ c text,
          Code.Writes u.spelling (conversion.blueprint.classCode "generator" .java6) c text ∧
          c ∉ conversion.blueprint.memberClasses ∧
            ∃ m ∈ conversion.blueprint.memberClasses, LeadsWith m.simpleName text := by
  intro declaration
  have hfields : (declaration.convert.toOption.map fun conversion =>
      (conversion.blueprint.target, conversion.blueprint.factory,
        conversion.blueprint.hasRequired)) =
      some (⟨"com.example", "Value", []⟩, some .builderMethod, true) := by
    decide +kernel
  obtain ⟨conversion, hconvert, hfields⟩ := map_toOption_eq_some_iff.1 hfields
  simp only [Prod.mk.injEq] at hfields
  obtain ⟨htarget, hfactory, hrequired⟩ := hfields
  obtain ⟨hbuilder, hgenerated⟩ := TypeDeclaration.names_of_convert hconvert
  have hnames : conversion.blueprint.NamedByDefault := ⟨⟨_, hbuilder⟩, hgenerated⟩
  refine ⟨conversion, hconvert, _, conversion.blueprint.write_ofPackage "generator" .java6,
    conversion.blueprint.target, _, .raw (Blueprint.newBuilder_mem_classCode hfactory ?_)
      (List.mem_of_getElem? (i := 10) rfl) rfl, ?_, conversion.blueprint.valueClass, ?_, ?_⟩
  · simp [Blueprint.clearsFromTemplate, hrequired]
  · intro hm
    refine Blueprint.inner_ne_nil_of_mem_memberClasses hnames hm ?_
    rw [htarget]
  · simp [Blueprint.memberClasses]
  · left
    rw [Blueprint.valueClass, ClassName.simpleName_nested, htarget]
    decide

end ValueBuilder
