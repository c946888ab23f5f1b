import ValueBuilder.Proofs.Declaration.ClassNames
import ValueBuilder.Proofs.Generation.RawPaths

/-!
# Imports for the paths of a unit

A path leads to a class only if its top-level class can be seen in the unit.

* `Blueprint.shows_of_spell_eq_nestedPath`: a class that the unit spells by its path can be seen,
  unless the path starts with the builder.
* `Blueprint.spell_eq_nestedPath_of_mem_imports`: and no other class is imported.
* `written_paths_are_visible` puts both together, for builders of any package.
  `written_path_not_visible_builder` is a builder whose name is reserved and therefore not imported.
-/

namespace ValueBuilder

open Java

/-- Whether the top-level class of a class can be seen in a unit with these names. -/
def NameTable.Shows (table : NameTable) (c : ClassName) : Prop :=
  c.package = table.package ∨ c.isLanguageClass = true ∨ c.package = "" ∨
    c.topLevelClass.qualifiedName ∈ table.imports

theorem NameTable.shows_iff {table : NameTable} {c : ClassName} :
    table.Shows c ↔
      table.seesWithoutImport c = true ∨ c.topLevelClass.qualifiedName ∈ table.imports := by
  simp only [Shows, seesWithoutImport, Bool.or_eq_true, beq_iff_eq, String.isEmpty_iff]
  tauto

/-- Top-level classes whose names have no dots can be told by their qualified names. -/
theorem Java.ClassName.topLevelClass_inj {c d : ClassName} (hc : c.package ≠ "")
    (hd : d.package ≠ "") (hcdot : '.' ∉ c.outermost.toList) (hddot : '.' ∉ d.outermost.toList)
    (h : c.topLevelClass.qualifiedName = d.topLevelClass.qualifiedName) :
    c.topLevelClass = d.topLevelClass := by
  have houtermost : c.outermost = d.outermost := by
    rw [← lastPart_topLevelClass hc hcdot, h, lastPart_topLevelClass hd hddot]
  have hname {e : ClassName} (he : e.package ≠ "") :
      e.topLevelClass.qualifiedName = e.package ++ "." ++ e.outermost := by
    simp [ClassName.qualifiedName, ClassName.nestedPath, ClassName.names, ClassName.topLevelClass,
      he]
  rw [hname hc, hname hd, houtermost, String.append_left_inj, String.append_left_inj] at h
  exact ClassName.topLevelClass_eq_iff.2 ⟨h, houtermost⟩

namespace Blueprint

variable {b : Blueprint} {generator : String} {level : SourceLevel} {c : ClassName}

/-- Only the builder can be a member class and a top-level class at once. -/
theorem topLevelClass_notMem_memberClasses (hbuilder : c.topLevelClass ≠ b.builder) :
    c.topLevelClass ∉ b.memberClasses := by
  intro hm
  rcases eq_builder_or_nested_of_mem_memberClasses hm with heq | ⟨name, -, heq⟩
  · exact hbuilder heq
  · have hinner : [] = b.generated.inner ++ [name] := congrArg ClassName.inner heq
    simp at hinner

/-- A class that the unit spells by its path can be seen, unless the path starts with the
builder. -/
theorem shows_of_spell_eq_nestedPath
    (hspell : (b.nameTable generator level).spell c = c.nestedPath)
    (hbuilder : c.topLevelClass ≠ b.builder) : (b.nameTable generator level).Shows c := by
  rw [NameTable.shows_iff]
  cases hsees : (b.nameTable generator level).seesWithoutImport c with
  | true => exact .inl rfl
  | false =>
    right
    have howner : (b.nameTable generator level).owner? c.outermost = some c.topLevelClass :=
      (NameTable.spell_eq_nestedPath_iff (NameTable.package_ne_empty hsees)).1 hspell
    -- A member class would own the name if it were reserved.
    have hfree : ∀ m ∈ b.memberClasses, m.simpleName ≠ c.outermost := by
      intro m hm hname
      obtain ⟨member, hmember, hreserved⟩ := NameTable.owner?_simpleName_ofRun b.target.package
        (Code.classes (b.classCode generator level)) hm
      rw [hname] at hreserved
      have heq : member = c.topLevelClass := Option.some.inj (hreserved.symm.trans howner)
      exact topLevelClass_notMem_memberClasses hbuilder (heq ▸ hmember)
    have hfind := howner
    rw [nameTable, NameTable.owner?_ofRun_of_free _ _ hfree] at hfind
    obtain ⟨d, hd, htop⟩ := Option.map_eq_some_iff.1 hfind
    have hname : d.outermost = c.outermost := by simpa using List.find?_some hd
    refine NameTable.mem_imports_ofRun_iff.2 ⟨d, List.mem_of_find?_eq_some hd, ?_, ?_, ?_, ?_⟩
    · rwa [hname]
    · rw [hname, htop]
      exact howner
    · rw [← hsees]
      exact NameTable.seesWithoutImport_congr (ClassName.topLevelClass_eq_iff.1 htop).1
    · rw [htop]

/-- A class is imported only if the unit spells its path, and never if it is the builder. -/
theorem spell_eq_nestedPath_of_mem_imports
    (hdots : ∀ d ∈ Code.classes (b.classCode generator level), '.' ∉ d.outermost.toList)
    (hdot : '.' ∉ c.outermost.toList)
    (hsees : (b.nameTable generator level).seesWithoutImport c = false)
    (h : c.topLevelClass.qualifiedName ∈ (b.nameTable generator level).imports) :
    (b.nameTable generator level).spell c = c.nestedPath ∧ c.topLevelClass ≠ b.builder := by
  obtain ⟨d, hd, hfree, howner, hunseen, hname⟩ := NameTable.mem_imports_ofRun_iff.1 h
  have htop : d.topLevelClass = c.topLevelClass :=
    ClassName.topLevelClass_inj (NameTable.package_ne_empty hunseen)
      (NameTable.package_ne_empty hsees) (hdots d hd) hdot hname
  have houtermost : d.outermost = c.outermost := (ClassName.topLevelClass_eq_iff.1 htop).2
  rw [houtermost, htop] at howner
  refine ⟨(NameTable.spell_eq_nestedPath_iff (NameTable.package_ne_empty hsees)).2 howner, ?_⟩
  intro hbuilder
  refine hfree b.builder (by simp [memberClasses]) ?_
  rw [← hbuilder, houtermost]
  rfl

end Blueprint

/-- A class that is written by its path can be seen if the unit spells it so and its top-level class
is not the builder itself, whatever the packages of the builder and of the generated class are.
Unless simple names have dots, a class of another package can be seen in no other case. -/
theorem written_paths_are_visible (generator : String) (level : SourceLevel) (b : Blueprint) :
    ∃ u table, b.write generator (.ofPackage b.target.package level) = .ok u ∧
      u.spelling = .importing table ∧
      ∀ c, Code.Writes u.spelling (b.classCode generator level) c c.nestedPath →
        (table.spell c = c.nestedPath → c.topLevelClass ≠ b.builder → table.Shows c) ∧
        ((∀ d ∈ Code.classes (b.classCode generator level), '.' ∉ d.outermost.toList) →
          (table.Shows c ↔ table.seesWithoutImport c = true ∨
            table.spell c = c.nestedPath ∧ c.topLevelClass ≠ b.builder)) := by
  refine ⟨_, _, b.write_ofPackage generator level, rfl, fun c hc => ⟨?_, fun hdots => ⟨?_, ?_⟩⟩⟩
  · exact Blueprint.shows_of_spell_eq_nestedPath
  · intro hshows
    obtain ⟨d, hd, htop⟩ := Blueprint.exists_mem_classes_of_writes hc
    have hdot : '.' ∉ c.outermost.toList := by
      rw [← (ClassName.topLevelClass_eq_iff.1 htop).2]
      exact hdots d hd
    rw [NameTable.shows_iff] at hshows
    cases hsees : (b.nameTable generator level).seesWithoutImport c with
    | true => exact .inl rfl
    | false =>
      rw [hsees] at hshows
      have himport := hshows.resolve_left Bool.false_ne_true
      exact .inr (Blueprint.spell_eq_nestedPath_of_mem_imports hdots hdot hsees himport)
  · rintro (hsees | ⟨hspell, hbuilder⟩)
    · exact NameTable.shows_iff.2 (.inl hsees)
    · exact Blueprint.shows_of_spell_eq_nestedPath hspell hbuilder

/-- A builder in a package of its own.  Its simple name is reserved for it, so that its path is that
name, and it is not imported. -/
theorem written_path_not_visible_builder :
    let draft : Draft :=
      { target := ⟨"com.example", "Person", []⟩
        builder := some ⟨"com.builders", "PersonBuilder", []⟩ }
    ∃ b, draft.check = .ok b ∧
      ∃ u table, b.write "generator" (.ofPackage b.target.package .java6) = .ok u ∧
        u.spelling = .importing table ∧
        ∃ c, Code.Writes u.spelling (b.classCode "generator" .java6) c c.nestedPath ∧
          ¬table.Shows c := by
  intro draft
  have hfields : (draft.check.toOption.map fun b =>
      (b.target, b.builder, b.generated, b.properties.isEmpty,
        (b.memberClasses.foldl NameTable.reserve (.empty b.target.package)).owner?
          "PersonBuilder")) =
      some (⟨"com.example", "Person", []⟩, ⟨"com.builders", "PersonBuilder", []⟩,
        ⟨"com.example", "Person_Builder", []⟩, true,
        some ⟨"com.builders", "PersonBuilder", []⟩) := by
    rfl
  obtain ⟨b, hcheck, hfields⟩ := map_toOption_eq_some_iff.1 hfields
  simp only [Prod.mk.injEq, List.isEmpty_iff] at hfields
  obtain ⟨htarget, hbuilder, hgenerated, hproperties, hreserved⟩ := hfields
  obtain ⟨hnamed, -, -⟩ := b.own_mem_classes "generator" .java6
  have hpath : (b.nameTable "generator" .java6).spell b.builder = b.builder.nestedPath := by
    have howner : (b.nameTable "generator" .java6).owner? "PersonBuilder" =
        some ⟨"com.builders", "PersonBuilder", []⟩ := NameTable.owner?_foldl_mention hreserved
    rw [hbuilder]
    exact (NameTable.spell_eq_nestedPath_iff (by decide)).2 howner
  have hdots : ∀ d ∈ Code.classes (b.classCode "generator" .java6), '.' ∉ d.outermost.toList := by
    intro d hd
    refine ((Blueprint.mentions_of_mem_classes hd).isNamed ?_ ?_ ?_ ?_ ?_).dot_notMem_outermost
    · rw [htarget]
      decide
    · rw [hbuilder]
      decide
    · rw [hgenerated]
      decide
    · simp [hproperties]
    · simp [hproperties]
  have hsees : (b.nameTable "generator" .java6).seesWithoutImport b.builder = false := by
    rw [NameTable.seesWithoutImport, Blueprint.nameTable, NameTable.package_ofRun, htarget,
      hbuilder]
    decide
  refine ⟨b, hcheck, _, _, b.write_ofPackage "generator" .java6, rfl, b.builder, ?_, ?_⟩
  · have hwritten : Code.Writes (b.unit "generator" .java6).spelling
        (b.classCode "generator" .java6) b.builder
          ((b.nameTable "generator" .java6).spell b.builder) := .spelled hnamed
    rwa [hpath] at hwritten
  · intro hshows
    rw [NameTable.shows_iff, hsees] at hshows
    have himport := hshows.resolve_left Bool.false_ne_true
    refine (Blueprint.spell_eq_nestedPath_of_mem_imports hdots (hdots _ hnamed) hsees himport).2 ?_
    rw [hbuilder]
    rfl

end ValueBuilder
