import ValueBuilder.Proofs.Builder.NamedClasses
import ValueBuilder.Proofs.Builder.WrittenUnits
import ValueBuilder.Proofs.Source.ReservedNames

/-!
# Fragments and files

A fragment spells every class by its path.  A file does so as well as long as no two classes compete
for a simple name, and then the file is the fragment behind a package line and imports.

* `NameTable.owner?_ofRun_of_distinct`: without competition each class that is named owns its name,
  so that it is spelled by its path.  `NameTable.distinct_of_mentionsOnly` finds it from a list of
  the top-level classes.
* `Blueprint.file_extends_fragment` compares the two texts of a class, and says what is imported.
-/

namespace ValueBuilder

open Java

namespace NameTable

variable {package : String} {reserved named : List ClassName} {c : ClassName}

/-- Whether no two classes that are named, and no class and a member class, compete for a simple
name. -/
structure Distinct (reserved named : List ClassName) : Prop where
  among : ∀ c ∈ named, ∀ d ∈ named, c.outermost = d.outermost → c.topLevelClass = d.topLevelClass
  from_members : ∀ c ∈ named, ∀ m ∈ reserved, c.outermost = m.simpleName → c.topLevelClass = m

/-- Whatever entry a name has, it is of the one class that can have it. -/
theorem owner?_ofRun_of_distinct (package : String) (h : Distinct reserved named)
    (hc : c ∈ named) : (ofRun package reserved named).owner? c.outermost = some c.topLevelClass := by
  obtain ⟨owner, howner⟩ := exists_owner?_of_mem package reserved hc
  obtain ⟨entry, hentry, hname, hclass⟩ := exists_entry_of_owner? howner
  rw [howner, ← hclass, Option.some_inj]
  cases (lawful_ofRun package reserved named).rightful entry hentry with
  | member hm => exact (h.from_members c hc _ hm hname.symm).symm
  | mention hd => exact h.among _ hd c hc hname

theorem spell_ofRun_of_distinct (package : String) (h : Distinct reserved named) (hc : c ∈ named) :
    (ofRun package reserved named).spell c = c.nestedPath := by
  simp [spell, owner?_ofRun_of_distinct package h hc]

/-- The top-level classes of other packages are imported, except those of the default package, of
`java.lang`, and the reserved ones. -/
theorem mem_imports_ofRun_of_distinct {text : String} (h : Distinct reserved named) :
    text ∈ (ofRun package reserved named).imports ↔
      ∃ c ∈ named, c.topLevelClass ∉ reserved ∧ c.package ≠ package ∧ c.package ≠ "" ∧
        c.isLanguageClass = false ∧ text = c.topLevelClass.qualifiedName := by
  have hfree (c : ClassName) (hc : c ∈ named) :
      (∀ m ∈ reserved, m.simpleName ≠ c.outermost) ↔ c.topLevelClass ∉ reserved := by
    constructor
    · exact fun hfree hmem => hfree _ hmem rfl
    · intro hmem m hm hname
      exact hmem (h.from_members c hc m hm hname.symm ▸ hm)
  have hsees (c : ClassName) : (ofRun package reserved named).seesWithoutImport c = false ↔
      c.package ≠ package ∧ c.package ≠ "" ∧ c.isLanguageClass = false := by
    rw [seesWithoutImport, package_ofRun]
    simp [and_assoc]
  rw [mem_imports_ofRun_iff]
  constructor
  · rintro ⟨c, hc, hmembers, -, hunseen, rfl⟩
    obtain ⟨hpackage, hdefault, hlanguage⟩ := (hsees c).1 hunseen
    exact ⟨c, hc, (hfree c hc).1 hmembers, hpackage, hdefault, hlanguage, rfl⟩
  · rintro ⟨c, hc, hmem, hpackage, hdefault, hlanguage, rfl⟩
    exact ⟨c, hc, (hfree c hc).2 hmem, owner?_ofRun_of_distinct package h hc,
      (hsees c).2 ⟨hpackage, hdefault, hlanguage⟩, rfl⟩

/-- It is enough to compare the top-level classes of all arguments. -/
theorem distinct_of_mentionsOnly {code : Code} {known : List ClassName}
    (hcode : code.MentionsOnly (·.topLevelClass ∈ known))
    (hknown : ∀ c ∈ known, ∀ d ∈ known, c.outermost = d.outermost → c = d)
    (hmembers : ∀ c ∈ known, ∀ m ∈ reserved, c.outermost = m.simpleName → c = m) :
    Distinct reserved code.classes := by
  have hclasses : ∀ c ∈ code.classes, c.topLevelClass ∈ known :=
    Code.classes_of_mentionsOnly hcode
  constructor
  · exact fun c hc d hd => hknown _ (hclasses c hc) _ (hclasses d hd)
  · exact fun c hc m hm => hmembers _ (hclasses c hc) m hm

end NameTable

namespace Blueprint

/-- Unless classes compete for simple names, the file of a class is its fragment behind the package
line and the imports of those classes of other packages that are not reserved. -/
theorem file_extends_fragment (generator package : String) (b : Blueprint)
    (hnamed : ∀ c ∈ Code.classes (b.classCode generator .java6),
      ∀ d ∈ Code.classes (b.classCode generator .java6),
        c.outermost = d.outermost → c.topLevelClass = d.topLevelClass)
    (hmembers : ∀ c ∈ Code.classes (b.classCode generator .java6), ∀ m ∈ b.memberClasses,
      c.outermost = m.simpleName → c.topLevelClass = m) :
    ∃ fragment file imports, b.write generator .fragment = .ok fragment ∧
      b.write generator (.ofPackage package .java6) = .ok file ∧
      fragment.finish = .ok fragment.body ∧ file.body = fragment.body ∧
      file.finish =
        .ok (SourceUnit.packageLine package ++ SourceUnit.importBlock imports ++ fragment.body) ∧
      imports.Pairwise (· < ·) ∧
      ∀ text, text ∈ imports ↔ ∃ c ∈ Code.classes (b.classCode generator .java6),
        c.topLevelClass ∉ b.memberClasses ∧ c.package ≠ package ∧ c.package ≠ "" ∧
          c.isLanguageClass = false ∧ text = c.topLevelClass.qualifiedName := by
  have hdistinct : NameTable.Distinct b.memberClasses
      (Code.classes (b.classCode generator .java6)) := ⟨hnamed, hmembers⟩
  have htext : (b.classCode generator .java6).text
      (.importing (b.namesIn package generator .java6)) =
        (b.classCode generator .java6).text .bare :=
    Code.text_congr fun c hc => NameTable.spell_ofRun_of_distinct package hdistinct hc
  have hpackage : (b.namesIn package generator .java6).package = package :=
    NameTable.package_ofRun _ _ _
  refine ⟨_, _, (b.namesIn package generator .java6).imports, b.write_fragment generator,
    b.write_inPackage package generator .java6, ?_, htext, ?_, pairwise_sorted _, ?_⟩
  · rw [SourceUnit.finish]
    exact congrArg Except.ok String.empty_append
  · rw [SourceUnit.finish_importing, hpackage, htext]
  · exact fun text => NameTable.mem_imports_ofRun_of_distinct hdistinct

/-- A class with a list of names, in its own package. -/
theorem file_extends_fragment_person :
    let target : ClassName := .topLevel "com.example" "Person"
    let nameType : JavaType := .declared (.topLevel "com.other" "Name") []
    let names : Property := .ofGetter "names" "getNames" (.declared Library.list [nameType]) false
    let b : Blueprint :=
      ⟨target, false, defaultBuilder target, some .constructor, defaultGenerated target, [names],
        false, false, false, by decide, by decide, by decide⟩
    let classes := Code.classes (b.classCode "generator" .java6)
    (∀ c ∈ classes, ∀ d ∈ classes, c.outermost = d.outermost → c.topLevelClass = d.topLevelClass) ∧
      (∀ c ∈ classes, ∀ m ∈ b.memberClasses, c.outermost = m.simpleName → c.topLevelClass = m) ∧
      ∃ fragment file imports, b.write "generator" .fragment = .ok fragment ∧
        b.write "generator" (.ofPackage "com.example" .java6) = .ok file ∧
        fragment.finish = .ok fragment.body ∧ file.body = fragment.body ∧
        file.finish = .ok (SourceUnit.packageLine "com.example" ++ SourceUnit.importBlock imports ++
          fragment.body) ∧
        imports.Pairwise (· < ·) ∧
        ∀ text, text ∈ imports ↔ ∃ c ∈ classes,
          c.topLevelClass ∉ b.memberClasses ∧ c.package ≠ "com.example" ∧ c.package ≠ "" ∧
            c.isLanguageClass = false ∧ text = c.topLevelClass.qualifiedName := by
  intro target nameType names b classes
  let known : List ClassName :=
    [target, defaultGenerated target, .topLevel "com.other" "Name", Library.generated,
      Library.visibleForTesting, Library.joiner, Library.preconditions, Library.iterable,
      Library.arrayList, Library.arrays, Library.collection, Library.collections, Library.list,
      Library.immutableList]
  have hcode : (b.classCode "generator" .java6).MentionsOnly (·.topLevelClass ∈ known) := by
    decide +kernel
  have hdistinct : NameTable.Distinct b.memberClasses classes :=
    NameTable.distinct_of_mentionsOnly hcode (by decide +kernel) (by decide +kernel)
  exact ⟨hdistinct.among, hdistinct.from_members,
    file_extends_fragment "generator" "com.example" b hdistinct.among hdistinct.from_members⟩

end Blueprint

end ValueBuilder
