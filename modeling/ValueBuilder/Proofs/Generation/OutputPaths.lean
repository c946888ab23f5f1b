import ValueBuilder.Proofs.Builder.PackageLines
import ValueBuilder.Proofs.Declaration.PlainNames
import ValueBuilder.Proofs.Generation.ClassLine
import ValueBuilder.Proofs.Run.Places

/-!
# Files below the output directory

The names in a path come from the text of a declared type name.  That text was split into
identifiers when it was read, and what is joined from identifiers is split into the same ones again.

* `Place.leadsDown_of_isIdentifier`: an identifier is the name of something in a directory.
* `Blueprint.isPlaced_of_file` is where a file lies, and `Blueprint.isPackaged_of_file` is where its
  package line stands.
* `Blueprint.IsPlain.avoidsPackage_behind`: behind its beginning a file has no package line.
* `generated_files_below_root` puts them together for the files of a run.
-/

namespace ValueBuilder

open Java

/-! ## Names in paths -/

namespace Place

variable {name : String}

theorem notMem_of_isIdentifier (h : isIdentifier name = true) {c : Char}
    (hc : isIdentifierPart c = false) : c ∉ name.toList := by
  intro hmem
  have hpart := List.all_eq_true.1 (all_isIdentifierPart_of_spellsIdentifier h) c hmem
  rw [hc] at hpart
  cases hpart

theorem leadsDown_of_isIdentifier (h : isIdentifier name = true) : LeadsDown name := by
  have hdot := dot_notMem_of_isIdentifier h
  constructor
  case ne_empty => exact ne_empty_of_isIdentifier h
  case ne_here =>
    rintro rfl
    exact hdot (by decide)
  case ne_above =>
    rintro rfl
    exact hdot (by decide)
  case no_separator => exact notMem_of_isIdentifier h (by decide)

theorem leadsDown_append_java (h : isIdentifier name = true) : LeadsDown (name ++ ".java") := by
  have hlong : 5 ≤ (name ++ ".java").length := by
    rw [String.length_append]
    exact Nat.le_add_left _ _
  constructor
  case ne_empty =>
    intro hname
    rw [hname] at hlong
    exact absurd hlong (by decide)
  case ne_here =>
    intro hname
    rw [hname] at hlong
    exact absurd hlong (by decide)
  case ne_above =>
    intro hname
    rw [hname] at hlong
    exact absurd hlong (by decide)
  case no_separator =>
    rw [String.toList_append, List.mem_append, not_or]
    exact ⟨notMem_of_isIdentifier h (by decide), by decide⟩

end Place

/-! ## Where a file lies -/

/-- Where the file for a class lies, if the package of the class has these segments. -/
structure GeneratedFile.IsPlaced (generated : GeneratedFile) (target : ClassName)
    (segments : List String) : Prop where
  directories : generated.directories = segments
  name : generated.name = "_".intercalate target.names ++ "_Builder.java"
  /-- The path does not begin at the root of the disk. -/
  relative : Place.start ("/".intercalate generated.path) = []
  /-- The steps of the path are names of things in the directories before them. -/
  reaches : Place.ofPath ("/".intercalate generated.path) = segments ++ [generated.name]
  /-- So the path leads to a place below any directory. -/
  below : ∀ root ≠ "", Place.ofPath (Job.pathBelow root generated.path) =
    Place.ofPath root ++ (segments ++ [generated.name])

namespace Blueprint

variable {b : Blueprint} {settings : Settings} {generated : GeneratedFile} {segments : List String}

theorem isPlaced_of_file (h : b.file settings = .ok generated)
    (hgenerated : b.generated = defaultGenerated b.target) (htarget : b.target.IsNamed)
    (hpackage : b.target.package = ".".intercalate segments)
    (hsegments : ∀ s ∈ segments, isIdentifier s = true) :
    generated.IsPlaced b.target segments := by
  have hdirectories : generated.directories = segments := by
    have hpath : generated.directories = packageDirectories b.generated.package := by
      obtain ⟨code, -, hfile⟩ := bind_eq_ok_iff.1 h
      exact (congrArg GeneratedFile.directories (Except.ok.inj hfile)).symm
    have hsame : b.generated.package = b.target.package := by
      rw [hgenerated]
      rfl
    rw [hpath, hsame, hpackage, packageDirectories_intercalate hsegments]
  have hname : generated.name = b.target.flatName ++ "_Builder" ++ ".java" := by
    rw [name_of_file h, hgenerated]
    rfl
  have hpath : generated.path = segments ++ [generated.name] := by
    rw [GeneratedFile.path, hdirectories]
  have hne : segments ++ [generated.name] ≠ [] := by simp
  have hdown : ∀ step ∈ segments ++ [generated.name], Place.LeadsDown step := by
    intro step hstep
    rcases List.mem_append.1 hstep with hsegment | hlast
    · exact Place.leadsDown_of_isIdentifier (hsegments step hsegment)
    · rw [List.mem_singleton.1 hlast, hname]
      exact Place.leadsDown_append_java
        (ClassName.isIdentifier_append htarget.flatName (by decide))
  constructor
  case directories => exact hdirectories
  case name =>
    rw [hname, String.append_assoc]
    rfl
  case relative =>
    rw [hpath]
    exact Place.start_path hdown
  case reaches =>
    rw [hpath]
    exact Place.ofPath_intercalate hdown hne
  case below =>
    intro root hroot
    rw [hpath]
    exact Place.ofPath_pathBelow hroot hdown hne

end Blueprint

/-! ## Imports -/

theorem Java.ClassName.IsPlain.topLevelClass {c : ClassName} (h : c.IsPlain) :
    c.topLevelClass.IsPlain := by
  have hpackage : Plain c.package := by
    by_cases hempty : c.package = ""
    · rw [hempty]
      decide
    · have hname : c.qualifiedName = c.package ++ "." ++ c.nestedPath := by
        simp [qualifiedName, hempty]
      refine Plain.of_infix h ?_
      rw [hname, String.append_assoc, String.toList_append]
      exact (List.prefix_append _ _).isInfix
  exact isPlain_topLevel hpackage (h.nestedPath.of_infix (infix_intercalate List.mem_cons_self))

/-- Import lines are no package lines. -/
theorem AvoidsPackage.importBlock {imports : List String} {body : String}
    (h : ∀ name ∈ imports, '\n' ∉ name.toList) (hbody : AvoidsPackage body) :
    AvoidsPackage (SourceUnit.importBlock imports ++ body) := by
  have hline (name : String) (hname : '\n' ∉ name.toList) :
      AvoidsPackage ("import " ++ name ++ ";") := by
    have hchars : ("import " ++ name ++ ";").toList.map some =
        "import ".toList.map some ++ (name.toList.map some ++ [some ';']) := by
      simp
    rw [AvoidsPackage, hchars]
    exact (Shape.avoidsPackage_fill hname).trans rfl
  have hlines : AvoidsPackage
      (imports.foldr (fun name rest => "import " ++ name ++ ";\n" ++ rest) "\n" ++ body) := by
    induction imports with
    | nil =>
      have hblank : AvoidsPackage "" := rfl
      exact hblank.append_line hbody
    | cons name imports ih =>
      obtain ⟨hname, hnames⟩ := List.forall_mem_cons.1 h
      have hsplit (rest : String) : "import " ++ name ++ ";\n" ++ rest ++ body =
          "import " ++ name ++ ";" ++ "\n" ++ (rest ++ body) := by
        simp only [String.append_assoc]
        rfl
      rw [List.foldr_cons, hsplit]
      exact append_line (hline name hname) (ih hnames)
  rw [SourceUnit.importBlock]
  split
  · rwa [String.empty_append]
  · exact hlines

/-! ## The package line -/

/-- Where a file has its package line. -/
structure GeneratedFile.IsPackaged (generated : GeneratedFile) (b : Blueprint) (settings : Settings)
    (segments : List String) : Prop where
  /-- Imports, the documentation and the annotations of the class are all that stands between the
  package line and the class. -/
  opening : ∃ spelling imports behind, generated.code =
    (if segments = [] then "" else "package " ++ ".".intercalate segments ++ ";\n\n") ++
      (SourceUnit.importBlock imports ++
        (Code.text spelling (b.headerTop settings.generator) ++ ("abstract class " ++ behind)))
  /-- No other line is a package line. -/
  packageLines : '\n' ∉ settings.generator.toList →
    (parts '\n' generated.code).filter isPackageLine =
      if segments = [] then [] else ["package " ++ ".".intercalate segments ++ ";"]

namespace Blueprint

variable {b : Blueprint} {settings : Settings} {generated : GeneratedFile} {segments : List String}

theorem packageLine_intercalate (h : ∀ s ∈ segments, isIdentifier s = true) :
    SourceUnit.packageLine (".".intercalate segments) =
      if segments = [] then "" else "package " ++ ".".intercalate segments ++ ";\n\n" := by
  cases segments with
  | nil => rfl
  | cons first rest =>
    have hfirst := ne_empty_of_isIdentifier (h first List.mem_cons_self)
    have hpackage : (".".intercalate (first :: rest)).isEmpty = false := by
      simpa using intercalate_ne_empty hfirst
    unfold SourceUnit.packageLine
    rw [hpackage, if_neg Bool.false_ne_true, if_neg (List.cons_ne_nil first rest)]

/-- The package line is the only one of a text behind it that has none. -/
theorem filter_isPackageLine {rest : String} (h : ∀ s ∈ segments, isIdentifier s = true)
    (hrest : AvoidsPackage rest) :
    (parts '\n' (SourceUnit.packageLine (".".intercalate segments) ++ rest)).filter isPackageLine =
      if segments = [] then [] else ["package " ++ ".".intercalate segments ++ ";"] := by
  rw [packageLine_intercalate h]
  by_cases hsegments : segments = []
  · rw [if_pos hsegments, if_pos hsegments, String.empty_append, hrest.filter_parts]
  · rw [if_neg hsegments, if_neg hsegments]
    let line := "package " ++ ".".intercalate segments ++ ";"
    have hplain : Plain (".".intercalate segments) :=
      Plain.intercalate (by decide) fun s hs => plain_of_isIdentifier (h s hs)
    have hbreak : '\n' ∉ line.toList :=
      ((Plain.append (by decide) hplain).append (by decide)).neutral.notMem_lineBreak
    have hline : isPackageLine line = true := by
      simp [line, isPackageLine]
    have hbehind : AvoidsPackage ("" ++ "\n" ++ rest) := AvoidsPackage.append_line rfl hrest
    have hsplit : "package " ++ ".".intercalate segments ++ ";\n\n" ++ rest =
        line ++ String.singleton '\n' ++ ("" ++ "\n" ++ rest) := by
      simp only [line, String.append_assoc]
      rfl
    rw [hsplit, parts_append, parts_of_notMem hbreak, List.singleton_append,
      List.filter_cons_of_pos hline, hbehind.filter_parts]

/-- With plain names, neither the imports nor the class have a package line. -/
theorem IsPlain.avoidsPackage_behind (hb : b.IsPlain) {generator : String}
    (hgenerator : '\n' ∉ generator.toList) (level : SourceLevel) :
    AvoidsPackage (SourceUnit.importBlock (b.nameTable generator level).imports ++
      (b.unit generator level).body) := by
  have hnames : ∀ name ∈ (b.nameTable generator level).imports, '\n' ∉ name.toList := by
    intro name hname
    obtain ⟨c, hc, -, -, -, rfl⟩ := NameTable.mem_imports_ofRun_iff.1 hname
    have hplain : c.IsPlain := hb.of_mentions (mentions_of_mem_classes hc)
    exact hplain.topLevelClass.neutral.notMem_lineBreak
  exact AvoidsPackage.importBlock hnames (hb.avoidsPackage_text hgenerator level _)

theorem isPackaged_of_file (h : b.file settings = .ok generated) (hb : b.IsPlain)
    (hpackage : b.target.package = ".".intercalate segments)
    (hsegments : ∀ s ∈ segments, isIdentifier s = true) :
    generated.IsPackaged b settings segments := by
  have htable : (b.nameTable settings.generator settings.level).package = b.target.package :=
    NameTable.package_ofRun _ _ _
  constructor
  case opening =>
    obtain ⟨behind, hcode⟩ := exists_code_of_file h
    rw [SourceUnit.preamble, htable, hpackage, packageLine_intercalate hsegments,
      line_classLine] at hcode
    simp only [String.append_assoc] at hcode
    exact ⟨_, _, _, hcode⟩
  case packageLines =>
    intro hgenerator
    have hcode : generated.code = SourceUnit.packageLine b.target.package ++
        (SourceUnit.importBlock (b.nameTable settings.generator settings.level).imports ++
          (b.unit settings.generator settings.level).body) := by
      rw [code_of_file h, ← String.append_assoc, ← htable]
      rfl
    rw [hcode, hpackage]
    exact filter_isPackageLine hsegments (hb.avoidsPackage_behind hgenerator settings.level)

end Blueprint

/-! ## The files of a run -/

/-- Every file of a run belongs to a declared type.  It lies below the output directory, in the
directories of the package, and its one package line names that package. -/
theorem generated_files_below_root (settings : Settings) (request : Request)
    (file : DeclarationFile) :
    ∀ generated ∈ (file.generate settings request).files,
      ∃ declaration ∈ file.types, ∃ conversion, declaration.convert = .ok conversion ∧
        ∃ segments, ClassName.parse declaration.name = .ok conversion.blueprint.target ∧
          conversion.blueprint.target.package = ".".intercalate segments ∧
            (∀ s ∈ segments, isIdentifier s = true) ∧
              generated.IsPlaced conversion.blueprint.target segments ∧
                generated.IsPackaged conversion.blueprint settings segments := by
  intro generated hgenerated
  obtain ⟨b, hb, hfile⟩ := DeclarationFile.mem_files_iff.1 hgenerated
  obtain ⟨declaration, hdeclared, -, conversion, hconvert, rfl⟩ :=
    DeclarationFile.mem_converted_iff.1 hb
  have hparse := TypeDeclaration.parse_name_of_convert hconvert
  obtain ⟨segments, hsegments, hpackage, -⟩ := ClassName.exists_package_of_parse hparse
  refine ⟨declaration, hdeclared, conversion, hconvert, segments, hparse, hpackage, hsegments,
    ?placed, ?packaged⟩
  case placed =>
    exact Blueprint.isPlaced_of_file hfile (TypeDeclaration.names_of_convert hconvert).2
      (ClassName.isNamed_of_parse hparse) hpackage hsegments
  case packaged =>
    exact Blueprint.isPackaged_of_file hfile (TypeDeclaration.isPlain_of_convert hconvert) hpackage
      hsegments

/-- A nested type of a package. -/
theorem generated_files_below_root_nested :
    let file : DeclarationFile := ⟨[{ name := "com.example.Outer.Inner" }]⟩
    ∃ generated ∈ (file.generate {} none).files,
      generated.directories = ["com", "example"] ∧ generated.name = "Outer_Inner_Builder.java" ∧
        Place.ofPath (Job.pathBelow "build/java" generated.path) =
          ["build", "java", "com", "example", "Outer_Inner_Builder.java"] ∧
        (∃ behind, generated.code = "package com.example;\n\n" ++ behind) ∧
          (parts '\n' generated.code).filter isPackageLine = ["package com.example;"] := by
  intro file
  have hconverts : ((TypeDeclaration.convert { name := "com.example.Outer.Inner" }).toOption.map
      fun _ => ()) = some () := by
    rfl
  have hread : ClassName.parse "com.example.Outer.Inner" =
      .ok ⟨"com.example", "Outer", ["Inner"]⟩ := by
    rfl
  obtain ⟨_, hconvert, -⟩ := map_toOption_eq_some_iff.1 hconverts
  obtain ⟨generated, hmem, -⟩ := DeclarationFile.exists_mem_files_of_convert hconvert {}
  obtain ⟨declaration, hdeclared, conversion, -, segments, hparse, hpackage, hsegments, hplaced,
    hpackaged⟩ := generated_files_below_root {} none file generated hmem
  rw [List.mem_singleton.1 hdeclared, hread] at hparse
  rw [← Except.ok.inj hparse] at hpackage hplaced
  have htwo : segments = ["com", "example"] := by
    rw [← packageDirectories_intercalate hsegments, ← hpackage]
    rfl
  subst htwo
  obtain ⟨_, _, _, hcode⟩ := hpackaged.opening
  have hname : generated.name = "Outer_Inner_Builder.java" := hplaced.name.trans (by decide)
  refine ⟨generated, hmem, hplaced.directories, hname, ?_, ⟨_, hcode⟩,
    hpackaged.packageLines (by decide)⟩
  rw [hplaced.below "build/java" (by decide), hname]
  rfl

end ValueBuilder
