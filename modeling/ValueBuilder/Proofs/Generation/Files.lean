import Mathlib.Data.List.Forall2
import ValueBuilder.Proofs.Builder.Emission
import ValueBuilder.Proofs.Declaration.Conversion

/-!
# One file for each converted type

A run has a file for each requested type that can be converted, in the order of the declarations,
and no warning of a type that could not be generated.
-/

namespace ValueBuilder

/-! ## Warnings -/

/-- Whether the warning is of a type that was converted but has no file. -/
def Warning.IsGenerationFailure (w : Warning) : Prop :=
  ∃ typeName error, w = .generationFailed typeName error

namespace Statistics

@[simp]
theorem warnings_add (a b : Statistics) : (a + b).warnings = a.warnings ++ b.warnings :=
  rfl

@[simp]
theorem mem_warnings_sum {w : Warning} {parts : List Statistics} :
    w ∈ parts.sum.warnings ↔ ∃ part ∈ parts, w ∈ part.warnings := by
  induction parts with
  | nil => exact iff_of_false List.not_mem_nil (by simp)
  | cons part parts ih => simp [ih]

end Statistics

/-- Converting warns of nothing but a serializer that is left out. -/
theorem TypeDeclaration.warnings_of_convert {declaration : TypeDeclaration}
    {conversion : Conversion} (h : declaration.convert = .ok conversion) :
    ∃ target, conversion.warnings = declaration.warnings target := by
  obtain ⟨target, scope, types, -, -, -, hwarnings⟩ := convert_eq_ok_iff.1 h
  exact ⟨target, hwarnings⟩

theorem TypeDeclaration.not_isGenerationFailure {declaration : TypeDeclaration}
    {target : Java.ClassName} {w : Warning} (h : w ∈ declaration.warnings target) :
    ¬w.IsGenerationFailure := by
  rw [(mem_warnings_iff.1 h).2]
  rintro ⟨typeName, error, heq⟩
  cases heq

/-! ## Plans -/

namespace TypeDeclaration

variable {request : Request} {declaration : TypeDeclaration}

/-- The blueprint of a declared type that is requested and can be converted. -/
def blueprint? (request : Request) (declaration : TypeDeclaration) : Option Blueprint :=
  if declaration.isRequested request then declaration.convert.toOption.map (·.blueprint) else none

theorem blueprints_plan (request : Request) (declaration : TypeDeclaration) :
    (declaration.plan request).blueprints = (declaration.blueprint? request).toList := by
  rw [plan, blueprint?]
  split
  · cases declaration.convert with
    | ok conversion => rfl
    | error error => rfl
  · rfl

/-- Planning a type does not warn of a type that was converted. -/
theorem not_isGenerationFailure_of_plan {w : Warning}
    (h : w ∈ (declaration.plan request).statistics.warnings) : ¬w.IsGenerationFailure := by
  rw [plan] at h
  split at h
  · split at h
    · next conversion hconvert =>
      obtain ⟨target, hwarnings⟩ := warnings_of_convert hconvert
      exact not_isGenerationFailure (hwarnings ▸ h)
    · next error herror =>
      rw [List.mem_singleton.1 h]
      rintro ⟨typeName, text, heq⟩
      cases heq
  · cases h

end TypeDeclaration

namespace DeclarationFile

variable {request : Request} {file : DeclarationFile}

/-- The blueprints of the requested types that can be converted, in the order of the
declarations. -/
def converted (request : Request) (file : DeclarationFile) : List Blueprint :=
  file.types.filterMap (·.blueprint? request)

theorem blueprints_plan (request : Request) (file : DeclarationFile) :
    (file.plan request).blueprints = file.converted request := by
  simp only [plan, converted, List.filterMap_eq_flatMap_toList, List.flatMap_map,
    TypeDeclaration.blueprints_plan]

/-- Planning warns of no type that was converted. -/
theorem not_isGenerationFailure_of_plan {w : Warning}
    (h : w ∈ (file.plan request).statistics.warnings) : ¬w.IsGenerationFailure := by
  simp only [plan, Statistics.warnings_add, List.mem_append, Statistics.mem_warnings_sum] at h
  rcases h with (hdeclared | hunknown) | ⟨part, hpart, hw⟩
  · cases hdeclared
  · obtain ⟨name, -, rfl⟩ := List.mem_map.1 hunknown
    rintro ⟨typeName, error, heq⟩
    cases heq
  · obtain ⟨type, htype, rfl⟩ := List.mem_map.1 hpart
    obtain ⟨declaration, -, rfl⟩ := List.mem_map.1 htype
    exact TypeDeclaration.not_isGenerationFailure_of_plan hw

end DeclarationFile

/-! ## Files -/

/-- What a blueprint adds to a run: its file, and no warning. -/
theorem Blueprint.exists_generation_eq (settings : Settings) (b : Blueprint) :
    ∃ file, b.file settings = .ok file ∧ b.generation settings = ⟨[file], .ofGenerated b⟩ := by
  obtain ⟨file, hfile⟩ := b.exists_file_eq_ok settings
  exact ⟨file, hfile, by rw [generation, hfile]⟩

/-- Blueprints have one file each, in order. -/
theorem forall₂_file (settings : Settings) (blueprints : List Blueprint) :
    List.Forall₂ (fun b file => b.file settings = .ok file) blueprints
      ((blueprints.map (·.generation settings)).flatMap (·.files)) := by
  induction blueprints with
  | nil => exact .nil
  | cons b blueprints ih =>
    obtain ⟨file, hfile, hgeneration⟩ := b.exists_generation_eq settings
    rw [List.map_cons, List.flatMap_cons, hgeneration]
    exact .cons hfile ih

/-- A run warns of no type that was converted but has no file. -/
theorem DeclarationFile.not_isGenerationFailure {settings : Settings} {request : Request}
    {file : DeclarationFile} {w : Warning}
    (h : w ∈ (file.generate settings request).statistics.warnings) : ¬w.IsGenerationFailure := by
  simp only [generate, Statistics.warnings_add, List.mem_append, Statistics.mem_warnings_sum] at h
  rcases h with hplan | ⟨part, hpart, hw⟩
  · exact not_isGenerationFailure_of_plan hplan
  · obtain ⟨generation, hgeneration, rfl⟩ := List.mem_map.1 hpart
    obtain ⟨b, -, rfl⟩ := List.mem_map.1 hgeneration
    obtain ⟨generated, -, heq⟩ := b.exists_generation_eq settings
    rw [heq] at hw
    cases hw

/-- Writing a class fails exactly if an error was pending before, and then with that error behind
the header.  So a run warns of no type that could not be generated, and it has exactly one file for
each requested type that can be converted, in the order of the declarations. -/
theorem emission_never_fails :
    (∀ (generator : String) (b : Blueprint) (u : SourceUnit),
      ((∃ u', b.write generator u = .ok u') ↔ u.error = none) ∧
        ∀ failure, b.write generator u = .error failure ↔
          ∃ cause, u.error = some cause ∧ failure = ⟨b.target.qualifiedName, .header, cause⟩) ∧
    ∀ (settings : Settings) (request : Request) (file : DeclarationFile),
      (∀ w ∈ (file.generate settings request).statistics.warnings, ¬w.IsGenerationFailure) ∧
        List.Forall₂ (fun b generated => b.file settings = .ok generated)
          (file.converted request) (file.generate settings request).files := by
  refine ⟨fun generator b u => ⟨?_, fun failure => ?_⟩, fun settings request file => ⟨?_, ?_⟩⟩
  · exact Blueprint.exists_write_eq_ok_iff
  · exact Blueprint.write_eq_error_iff
  · exact fun w h => DeclarationFile.not_isGenerationFailure h
  · rw [← file.blueprints_plan request]
    exact forall₂_file settings (file.plan request).blueprints

end ValueBuilder
