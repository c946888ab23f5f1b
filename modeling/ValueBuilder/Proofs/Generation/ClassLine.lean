import ValueBuilder.Proofs.Declaration.ClassNames
import ValueBuilder.Proofs.Generation.Paths
import ValueBuilder.Proofs.Source.Chunks

/-!
# The class line of a file

The file of a declared type is named after the generated class, and its class line declares that
class by the unit's spelling of it.

* `Blueprint.line_classLine` is the text of that line, and `Blueprint.exists_code_of_file` says
  where it stands.
* `Blueprint.spell_generated`: only the builder can reserve the name of the generated class, and
  then the class is spelled by its qualified name.
* `declared_names_of_files` assembles both for the files of a run.  `declared_name_qualified` is a
  type whose file declares a qualified name.
-/

namespace ValueBuilder

open Java

namespace Blueprint

variable {b : Blueprint} {generator : String} {level : SourceLevel}

/-! ## The line -/

/-- The documentation and the annotations of the generated class. -/
def headerTop (b : Blueprint) (generator : String) : Code :=
  joined
    [["/**",
        .template " * Auto-generated superclass of \x7b@link %s\x7d," [b.builder],
        .template " * derived from the API of \x7b@link %s\x7d." [b.target],
        " */",
        .template "@%s(\"%s\")" [Library.generated, .name generator]],
      if b.gwtCompatible then [.template "@%s" [Library.gwtCompatible]] else []]

/-- What declares the generated class. -/
def classLine (b : Blueprint) : Statement :=
  if b.serializable then
    .template "abstract class %s implements %s \x7b" [b.generated, Library.serializable]
  else .template "abstract class %s \x7b" [b.generated]

/-- What stands behind the name of the generated class, up to the brace. -/
def implemented (spelling : Spelling) (b : Blueprint) : String :=
  if b.serializable then " implements " ++ spelling.spell Library.serializable else ""

theorem header_eq (b : Blueprint) (generator : String) :
    ∃ bottom, b.header generator = b.headerTop generator ++ b.classLine :: bottom := by
  cases hgwt : b.gwtCompatible with
  | true => exact ⟨_, by simp only [header, headerTop, classLine, hgwt, joined]; rfl⟩
  | false => exact ⟨_, by simp only [header, headerTop, classLine, hgwt, joined]; rfl⟩

theorem line_classLine (spelling : Spelling) (b : Blueprint) :
    b.classLine.line spelling =
      "abstract class " ++ spelling.spell b.generated ++ b.implemented spelling ++ " \x7b\n" := by
  have hplain : (Statement.template "abstract class %s \x7b" [b.generated]).line spelling =
      "abstract class " ++ spelling.spell b.generated ++ " \x7b\n" := by
    rw [Statement.line_of_chunks rfl, String.append_assoc]
    rfl
  have himplements : (Statement.template "abstract class %s implements %s \x7b"
      [b.generated, Library.serializable]).line spelling =
      "abstract class " ++ spelling.spell b.generated ++
        (" implements " ++ spelling.spell Library.serializable) ++ " \x7b\n" := by
    rw [Statement.line_of_chunks rfl]
    simp only [String.append_assoc]
    rfl
  rw [classLine, implemented]
  cases b.serializable with
  | true => exact himplements
  | false =>
    rw [if_neg Bool.false_ne_true, if_neg Bool.false_ne_true, hplain, String.append_empty]

/-! ## The file -/

/-- The text of a file is that of its unit. -/
theorem code_of_file {settings : Settings} {file : GeneratedFile} (h : b.file settings = .ok file) :
    file.code = SourceUnit.preamble (b.unit settings.generator settings.level).spelling ++
      (b.unit settings.generator settings.level).body := by
  obtain ⟨code, hcode, hfile⟩ := bind_eq_ok_iff.1 h
  have htext : file.code = code := (congrArg GeneratedFile.code (Except.ok.inj hfile)).symm
  have hunit : b.code settings =
      .ok (SourceUnit.preamble (b.unit settings.generator settings.level).spelling ++
        (b.unit settings.generator settings.level).body) := by
    rw [Blueprint.code, write_ofPackage]
    rfl
  rw [htext, ← Except.ok.inj (hunit.symm.trans hcode)]

theorem name_of_file {settings : Settings} {file : GeneratedFile} (h : b.file settings = .ok file) :
    file.name = b.generated.simpleName ++ ".java" := by
  obtain ⟨code, -, hfile⟩ := bind_eq_ok_iff.1 h
  exact (congrArg GeneratedFile.name (Except.ok.inj hfile)).symm

/-- The class line stands behind the documentation and the annotations. -/
theorem exists_code_of_file {settings : Settings} {file : GeneratedFile}
    (h : b.file settings = .ok file) :
    let spelling := Spelling.importing (b.nameTable settings.generator settings.level)
    ∃ behind, file.code =
      SourceUnit.preamble spelling ++ Code.text spelling (b.headerTop settings.generator) ++
        b.classLine.line spelling ++ behind := by
  intro spelling
  obtain ⟨bottom, hheader⟩ := b.header_eq settings.generator
  obtain ⟨sections, hsections⟩ := b.sections_eq_cons
  let rest := bottom ++ sections.flatMap (·.code settings.generator settings.level b)
  have hcode : b.classCode settings.generator settings.level =
      b.headerTop settings.generator ++ b.classLine :: rest := by
    rw [classCode, hsections, List.flatMap_cons, Section.code, hheader, List.append_assoc,
      List.cons_append]
  refine ⟨Code.text spelling rest, ?_⟩
  rw [code_of_file h, unit, hcode, Code.text_append, Code.text_cons]
  simp only [String.append_assoc]
  rfl

/-! ## The declared name -/

variable {declaration : TypeDeclaration} {conversion : Conversion}

theorem generated_notMem_memberNames (h : declaration.convert = .ok conversion) :
    conversion.blueprint.generated.simpleName ∉ memberNames := by
  have hsuffix : "_Builder".toList <:+ conversion.blueprint.generated.simpleName.toList := by
    rw [(TypeDeclaration.names_of_convert h).2]
    exact ⟨conversion.blueprint.target.flatName.toList, String.toList_append.symm⟩
  have hmembers : ∀ name ∈ memberNames, ¬"_Builder".toList <:+ name.toList := by decide
  exact fun hmem => hmembers _ hmem hsuffix

/-- The generated class is spelled by its simple name, unless the builder has reserved that name and
the package can tell the two apart. -/
theorem spell_generated (h : declaration.convert = .ok conversion) (generator : String)
    (level : SourceLevel) :
    let b := conversion.blueprint
    (b.nameTable generator level).spell b.generated =
      if b.target.package ≠ "" ∧ declaration.builder.name = b.generated.simpleName then
        b.target.package ++ "." ++ b.generated.simpleName
      else b.generated.simpleName := by
  intro b
  obtain ⟨hbuilder, hgenerated⟩ := TypeDeclaration.names_of_convert h
  have hnames : b.NamedByDefault := ⟨⟨_, hbuilder⟩, hgenerated⟩
  obtain ⟨-, -, hmem⟩ := b.own_mem_classes generator level
  have htop : b.generated.topLevelClass = b.generated := by
    rw [hgenerated]
    rfl
  have hpackage : b.generated.package = b.target.package := by
    rw [hgenerated]
    rfl
  have houtermost : b.generated.outermost = b.generated.simpleName := by
    rw [hgenerated]
    rfl
  have hpath : b.generated.nestedPath = b.generated.simpleName := by
    rw [hgenerated]
    exact String.intercalate_singleton
  have hfree := TypeDeclaration.free_iff_of_notMem_memberNames h (generated_notMem_memberNames h)
  have hspelled : (b.nameTable generator level).spell b.generated = b.generated.simpleName ↔
      b.target.package = "" ∨ declaration.builder.name ≠ b.generated.simpleName := by
    have hshorten : ((Spelling.importing (b.nameTable generator level)).shorten b.generated).1 =
        (b.nameTable generator level).spell b.generated := by
      rw [Spelling.shorten_importing, nameTable, NameTable.mention_ofRun_of_mem _ _ hmem]
    rw [← hpath, ← hshorten, shorten_nameTable_eq_nestedPath_iff hnames (.inr htop), hpackage,
      houtermost, hfree, hpath]
  by_cases hreserved : b.target.package ≠ "" ∧ declaration.builder.name = b.generated.simpleName
  · rw [if_pos hreserved]
    have hne : (b.nameTable generator level).spell b.generated ≠ b.generated.simpleName := by
      rw [ne_eq, hspelled]
      rintro (hdefault | hbuilderName)
      · exact hreserved.1 hdefault
      · exact hbuilderName hreserved.2
    have hqualified : b.generated.qualifiedName =
        b.target.package ++ "." ++ b.generated.simpleName := by
      rw [ClassName.qualifiedName, hpackage, hpath, if_neg (by simpa using hreserved.1)]
    rw [NameTable.spell, hpath] at hne ⊢
    split at hne
    · exact absurd rfl hne
    · rw [if_neg ‹_›, hqualified]
  · rw [if_neg hreserved, hspelled]
    by_cases hdefault : b.target.package = ""
    · exact .inl hdefault
    · exact .inr fun hname => hreserved ⟨hdefault, hname⟩

end Blueprint

/-- A file with a single declaration that can be converted. -/
theorem DeclarationFile.exists_mem_files_of_convert {declaration : TypeDeclaration}
    {conversion : Conversion} (hconvert : declaration.convert = .ok conversion)
    (settings : Settings) :
    ∃ generated ∈ (DeclarationFile.generate settings none ⟨[declaration]⟩).files,
      conversion.blueprint ∈ DeclarationFile.converted none ⟨[declaration]⟩ ∧
        conversion.blueprint.file settings = .ok generated := by
  obtain ⟨generated, hfile⟩ := conversion.blueprint.exists_file_eq_ok settings
  have hconverted : conversion.blueprint ∈ DeclarationFile.converted none ⟨[declaration]⟩ :=
    mem_converted_iff.2 ⟨declaration, List.mem_singleton.2 rfl, rfl, conversion, hconvert, rfl⟩
  exact ⟨generated, mem_files_iff.2 ⟨_, hconverted, hfile⟩, hconverted, hfile⟩

/-- Each file declares, behind the documentation and the annotations, the class that it is named
after.  The name stands there alone, unless the package has a name and the builder is named like the
file: then the package stands before it. -/
theorem declared_names_of_files (settings : Settings) (request : Request) (file : DeclarationFile) :
    ∀ generated ∈ (file.generate settings request).files,
      ∃ declaration ∈ file.types, ∃ conversion, declaration.convert = .ok conversion ∧
        ∃ spelling declared behind,
          generated.code = SourceUnit.preamble spelling ++
              Code.text spelling (conversion.blueprint.headerTop settings.generator) ++
              ("abstract class " ++ declared ++ conversion.blueprint.implemented spelling ++
                " \x7b\n") ++ behind ∧
            declared ++ ".java" =
              if conversion.blueprint.target.package ≠ "" ∧
                  declaration.builder.name ++ ".java" = generated.name then
                conversion.blueprint.target.package ++ "." ++ generated.name
              else generated.name := by
  intro generated hmem
  obtain ⟨b, hb, hfile⟩ := DeclarationFile.mem_files_iff.1 hmem
  obtain ⟨declaration, hdeclared, -, conversion, hconvert, rfl⟩ :=
    DeclarationFile.mem_converted_iff.1 hb
  obtain ⟨behind, hcode⟩ := Blueprint.exists_code_of_file hfile
  refine ⟨declaration, hdeclared, conversion, hconvert, _, _, behind,
    by rwa [Blueprint.line_classLine] at hcode, ?_⟩
  simp only [Blueprint.name_of_file hfile, String.append_left_inj]
  rw [Spelling.spell, Blueprint.spell_generated hconvert]
  split
  · rw [String.append_assoc]
  · rfl

/-- A type of an ordinary name. -/
theorem declared_names_of_files_person :
    let settings : Settings := {}
    let file : DeclarationFile := ⟨[{ name := "com.example.Person" }]⟩
    ∃ generated ∈ (file.generate settings none).files, generated.name = "Person_Builder.java" ∧
      ∃ before implemented behind, generated.code =
        before ++ ("abstract class Person_Builder" ++ implemented ++ " \x7b\n") ++ behind := by
  intro settings file
  have hname : ((TypeDeclaration.convert { name := "com.example.Person" }).toOption.map
      (·.blueprint.generated.simpleName)) = some "Person_Builder" := by
    rfl
  obtain ⟨conversion, hconvert, hname⟩ := map_toOption_eq_some_iff.1 hname
  obtain ⟨generated, hmem, -, hfile⟩ :=
    DeclarationFile.exists_mem_files_of_convert hconvert settings
  have hgenerated : generated.name = "Person_Builder.java" := by
    rw [Blueprint.name_of_file hfile, hname]
    decide
  obtain ⟨declaration, hdeclared, other, -, spelling, declared, behind, hcode, hspelled⟩ :=
    declared_names_of_files settings none file generated hmem
  have hbuilder : ¬declaration.builder.name ++ ".java" = generated.name := by
    rw [List.mem_singleton.1 hdeclared, hgenerated]
    decide
  rw [if_neg (fun h => hbuilder h.2), hgenerated] at hspelled
  have hdeclaredName : declared = "Person_Builder" :=
    (String.append_left_inj ".java").1 (hspelled.trans (by decide))
  rw [hdeclaredName] at hcode
  exact ⟨generated, hmem, hgenerated, _, _, behind, hcode⟩

/-- A builder that is named like the generated class.  That name is reserved for it, so the class
line has the qualified name of the generated class. -/
theorem declared_name_qualified :
    let settings : Settings := {}
    let file : DeclarationFile :=
      ⟨[{ name := "com.example.Person", builder := { name := "Person_Builder" } }]⟩
    ∃ generated ∈ (file.generate settings none).files, generated.name = "Person_Builder.java" ∧
      ∃ b ∈ file.converted none, b.file settings = .ok generated ∧
        ∃ spelling behind,
          generated.code = SourceUnit.preamble spelling ++
            Code.text spelling (b.headerTop settings.generator) ++
            "abstract class com.example.Person_Builder \x7b\n" ++ behind := by
  intro settings file
  have hfields : ((TypeDeclaration.convert
      { name := "com.example.Person", builder := { name := "Person_Builder" } }).toOption.map
        fun conversion => (conversion.blueprint.target, conversion.blueprint.generated.simpleName,
          conversion.blueprint.serializable)) =
      some (⟨"com.example", "Person", []⟩, "Person_Builder", false) := by
    rfl
  obtain ⟨conversion, hconvert, hfields⟩ := map_toOption_eq_some_iff.1 hfields
  simp only [Prod.mk.injEq] at hfields
  obtain ⟨htarget, hname, hserializable⟩ := hfields
  obtain ⟨generated, hmem, hconverted, hfile⟩ :=
    DeclarationFile.exists_mem_files_of_convert hconvert settings
  have hgenerated : generated.name = "Person_Builder.java" := by
    rw [Blueprint.name_of_file hfile, hname]
    decide
  have hline : conversion.blueprint.classLine.line
      (.importing (conversion.blueprint.nameTable settings.generator settings.level)) =
      "abstract class com.example.Person_Builder \x7b\n" := by
    rw [Blueprint.line_classLine, Spelling.spell, Blueprint.spell_generated hconvert, htarget,
      hname, Blueprint.implemented, hserializable, if_neg Bool.false_ne_true]
    decide
  obtain ⟨behind, hcode⟩ := Blueprint.exists_code_of_file hfile
  rw [hline] at hcode
  exact ⟨generated, hmem, hgenerated, conversion.blueprint, hconverted, hfile,
    .importing (conversion.blueprint.nameTable settings.generator settings.level), behind, hcode⟩

end ValueBuilder
