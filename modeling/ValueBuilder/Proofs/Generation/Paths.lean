import ValueBuilder.Proofs.Generation.Files
import ValueBuilder.Proofs.Generation.RawPaths
import ValueBuilder.Proofs.Java.ClassNames

/-!
# Output paths

A file is named after the generated class, whose name joins the simple names of the target by
underscores, and lies in the directories of the package.

* `packageDirectories_intercalate`: the directories are the segments of the package.
* `Blueprint.path_eq_iff`: two types share a path exactly if they share a package and their simple
  names are joined to the same text.
* `output_paths_nodup_iff`: so files overwrite each other only where an underscore in a name reads
  like a dot.  `output_paths_repeat_nested` is such a pair of types.
-/

namespace ValueBuilder

open Java

/-! ## Packages -/

/-- The directories of a package are its segments. -/
theorem packageDirectories_intercalate {segments : List String}
    (h : ∀ s ∈ segments, isIdentifier s = true) :
    packageDirectories (".".intercalate segments) = segments := by
  cases segments with
  | nil => rfl
  | cons first rest =>
    have hparts : parts '.' (".".intercalate (first :: rest)) = first :: rest :=
      parts_intercalate (by simp) fun s hs => dot_notMem_of_isIdentifier (h s hs)
    rw [packageDirectories, hparts, List.filter_eq_self]
    intro s hs
    simpa using ne_empty_of_isIdentifier (h s hs)

/-- Different packages have different directories. -/
theorem packageDirectories_inj {text other : String} {c d : ClassName}
    (hc : ClassName.parse text = .ok c) (hd : ClassName.parse other = .ok d) :
    packageDirectories c.package = packageDirectories d.package ↔ c.package = d.package := by
  obtain ⟨segments, hsegments, hpackage, -⟩ := ClassName.exists_package_of_parse hc
  obtain ⟨segments', hsegments', hpackage', -⟩ := ClassName.exists_package_of_parse hd
  constructor
  · intro h
    rw [hpackage, hpackage', packageDirectories_intercalate hsegments,
      packageDirectories_intercalate hsegments'] at h
    rw [hpackage, hpackage', h]
  · exact congrArg packageDirectories

/-! ## Flat names -/

/-- Names without underscores can be told from the text that joins them by underscores. -/
theorem Java.ClassName.names_eq_of_flatName_eq {c d : ClassName}
    (hc : ∀ s ∈ c.names, '_' ∉ s.toList) (hd : ∀ s ∈ d.names, '_' ∉ s.toList)
    (h : c.flatName = d.flatName) : c.names = d.names := by
  have hparts {e : ClassName} (he : ∀ s ∈ e.names, '_' ∉ s.toList) :
      parts '_' e.flatName = e.names :=
    parts_intercalate (by simp [ClassName.names]) he
  rw [← hparts hc, h, hparts hd]

/-! ## Converted types -/

theorem TypeDeclaration.blueprint?_eq_some_iff {request : Request} {declaration : TypeDeclaration}
    {b : Blueprint} :
    declaration.blueprint? request = some b ↔
      declaration.isRequested request = true ∧
        ∃ conversion, declaration.convert = .ok conversion ∧ conversion.blueprint = b := by
  rw [blueprint?]
  split
  · next hrequested =>
    rw [map_toOption_eq_some_iff]
    simp [hrequested]
  · next hrequested => simp [hrequested]

namespace Blueprint

/-- The path of the file of a blueprint. -/
def path (b : Blueprint) : List String :=
  packageDirectories b.generated.package ++ [b.generated.simpleName ++ ".java"]

theorem path_of_file {settings : Settings} {b : Blueprint} {file : GeneratedFile}
    (h : b.file settings = .ok file) : file.path = b.path := by
  obtain ⟨code, -, hfile⟩ := bind_eq_ok_iff.1 h
  cases hfile
  rfl

/-- Two types share a path exactly if they share a package and their joined names are the same. -/
theorem path_eq_iff {first second : TypeDeclaration} {conversion other : Conversion}
    (hfirst : first.convert = .ok conversion) (hsecond : second.convert = .ok other) :
    conversion.blueprint.path = other.blueprint.path ↔
      conversion.blueprint.target.package = other.blueprint.target.package ∧
        conversion.blueprint.target.flatName = other.blueprint.target.flatName := by
  have hpath {declaration : TypeDeclaration} {conversion : Conversion}
      (h : declaration.convert = .ok conversion) :
      conversion.blueprint.path = packageDirectories conversion.blueprint.target.package ++
        [conversion.blueprint.target.flatName ++ "_Builder" ++ ".java"] := by
    rw [path, (TypeDeclaration.names_of_convert h).2]
    rfl
  rw [hpath hfirst, hpath hsecond, List.append_singleton_inj,
    packageDirectories_inj (TypeDeclaration.parse_name_of_convert hfirst)
      (TypeDeclaration.parse_name_of_convert hsecond), String.append_left_inj,
    String.append_left_inj]

end Blueprint

namespace DeclarationFile

variable {settings : Settings} {request : Request} {file : DeclarationFile}

theorem mem_converted_iff {b : Blueprint} :
    b ∈ file.converted request ↔
      ∃ declaration ∈ file.types, declaration.isRequested request = true ∧
        ∃ conversion, declaration.convert = .ok conversion ∧ conversion.blueprint = b := by
  simp only [converted, List.mem_filterMap, TypeDeclaration.blueprint?_eq_some_iff]

/-- The files of a run are those of the requested types that can be converted. -/
theorem mem_files_iff {generated : GeneratedFile} :
    generated ∈ (file.generate settings request).files ↔
      ∃ b ∈ file.converted request, b.file settings = .ok generated := by
  rw [generate, blueprints_plan]
  constructor
  · intro h
    exact exists_mem_of_forall₂ (forall₂_file settings (file.converted request)) h
  · rintro ⟨b, hb, hfile⟩
    refine List.mem_flatMap.2 ⟨b.generation settings, List.mem_map_of_mem hb, ?_⟩
    rw [Blueprint.generation, hfile]
    exact List.mem_singleton.2 rfl

/-- The paths of the files, as those of the blueprints. -/
theorem paths_generate (settings : Settings) (request : Request) (file : DeclarationFile) :
    (file.generate settings request).files.map (·.path) =
      (file.converted request).map Blueprint.path := by
  have hpaths {blueprints : List Blueprint} {files : List GeneratedFile}
      (h : List.Forall₂ (fun b file => b.file settings = .ok file) blueprints files) :
      files.map (·.path) = blueprints.map Blueprint.path := by
    induction h with
    | nil => rfl
    | cons hfile _ ih => rw [List.map_cons, List.map_cons, Blueprint.path_of_file hfile, ih]
  rw [generate, blueprints_plan]
  exact hpaths (forall₂_file settings (file.converted request))

theorem paths_nodup_iff :
    ((file.generate settings request).files.map (·.path)).Nodup ↔
      (file.converted request).Pairwise fun b c =>
        b.target.package = c.target.package → b.target.flatName ≠ c.target.flatName := by
  rw [paths_generate, List.Nodup, List.pairwise_map]
  refine List.Pairwise.iff_of_mem fun hb hc => ?_
  obtain ⟨first, -, -, conversion, hfirst, rfl⟩ := mem_converted_iff.1 hb
  obtain ⟨second, -, -, other, hsecond, rfl⟩ := mem_converted_iff.1 hc
  rw [ne_eq, Blueprint.path_eq_iff hfirst hsecond, not_and]

/-- Types with different names and without underscores have different paths. -/
theorem paths_nodup_of_no_underscore (hnames : (file.types.map (·.name)).Nodup)
    (hplain : ∀ b ∈ file.converted request, ∀ name ∈ b.target.names, '_' ∉ name.toList) :
    ((file.generate settings request).files.map (·.path)).Nodup := by
  rw [paths_nodup_iff, converted, List.pairwise_filterMap]
  rw [List.Nodup, List.pairwise_map] at hnames
  refine hnames.imp_of_mem fun hfirst hsecond hname b hb c hc hpackage hflat => hname ?_
  have hmem {declaration : TypeDeclaration} {b : Blueprint} (hdeclared : declaration ∈ file.types)
      (hb : declaration.blueprint? request = some b) : b ∈ file.converted request :=
    List.mem_filterMap.2 ⟨declaration, hdeclared, hb⟩
  have hsame := ClassName.names_eq_of_flatName_eq (hplain b (hmem hfirst hb))
    (hplain c (hmem hsecond hc)) hflat
  obtain ⟨-, conversion, hconvert, rfl⟩ := TypeDeclaration.blueprint?_eq_some_iff.1 hb
  obtain ⟨-, other, hother, rfl⟩ := TypeDeclaration.blueprint?_eq_some_iff.1 hc
  rw [← ClassName.qualifiedName_of_parse (TypeDeclaration.parse_name_of_convert hconvert),
    ← ClassName.qualifiedName_of_parse (TypeDeclaration.parse_name_of_convert hother),
    ClassName.qualifiedName, ClassName.qualifiedName, ClassName.nestedPath, ClassName.nestedPath,
    hpackage, hsame]

end DeclarationFile

/-- The files of types with different names have different paths exactly if no two of the types
share a package and the text that joins their simple names by underscores.  Simple names without
underscores can be told from that text. -/
theorem output_paths_nodup_iff (settings : Settings) (request : Request) (file : DeclarationFile)
    (hnames : (file.types.map (·.name)).Nodup) :
    let paths := (file.generate settings request).files.map (·.path)
    (paths.Nodup ↔ (file.converted request).Pairwise fun b c =>
        b.target.package = c.target.package → b.target.flatName ≠ c.target.flatName) ∧
      ((∀ b ∈ file.converted request, ∀ name ∈ b.target.names, '_' ∉ name.toList) →
        paths.Nodup) :=
  ⟨DeclarationFile.paths_nodup_iff, DeclarationFile.paths_nodup_of_no_underscore hnames⟩

/-- A nested type and a top-level one, neither of them with an underscore. -/
theorem output_paths_nodup_iff_plain :
    let file : DeclarationFile :=
      ⟨[{ name := "com.example.Outer.Inner" }, { name := "com.example.OuterInner" }]⟩
    (file.types.map (·.name)).Nodup ∧
      (∀ b ∈ file.converted none, ∀ name ∈ b.target.names, '_' ∉ name.toList) ∧
        ((file.generate {} none).files.map (·.path)).Nodup := by
  intro file
  have hnames : (file.types.map (·.name)).Nodup := by decide
  have htargets : (file.converted none).map (·.target.names) =
      [["Outer", "Inner"], ["OuterInner"]] := by
    rfl
  have hplain : ∀ b ∈ file.converted none, ∀ name ∈ b.target.names, '_' ∉ name.toList := by
    intro b hb
    have hmem : b.target.names ∈ (file.converted none).map (·.target.names) :=
      List.mem_map_of_mem hb
    rw [htargets] at hmem
    revert hmem
    generalize b.target.names = names
    revert names
    decide
  exact ⟨hnames, hplain, (output_paths_nodup_iff {} none file hnames).2 hplain⟩

/-- A nested type, and a top-level one whose name has an underscore in place of the dot: the file of
the second has the path of the first. -/
theorem output_paths_repeat_nested :
    let file : DeclarationFile :=
      ⟨[{ name := "com.example.Outer.Inner" }, { name := "com.example.Outer_Inner" }]⟩
    (file.types.map (·.name)).Nodup ∧
      ¬((file.generate {} none).files.map (·.path)).Nodup := by
  intro file
  have hjoined : (file.converted none).map (fun b => (b.target.package, b.target.flatName)) =
      [("com.example", "Outer_Inner"), ("com.example", "Outer_Inner")] := by
    rfl
  refine ⟨by decide, fun hpaths => ?_⟩
  have hpairwise : ((file.converted none).map fun b =>
      (b.target.package, b.target.flatName)).Pairwise fun p q => p.1 = q.1 → p.2 ≠ q.2 :=
    List.pairwise_map.2 (DeclarationFile.paths_nodup_iff.1 hpaths)
  rw [hjoined] at hpairwise
  simp at hpairwise

end ValueBuilder
