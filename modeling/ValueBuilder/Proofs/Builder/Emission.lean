import ValueBuilder.Generation.Basic
import ValueBuilder.Proofs.Builder.SectionTemplates

/-!
# Emission never fails on its own

A section leaves the pending error of a unit as it is, because its templates fit
(`Blueprint.writeSection_eq`).  Writing a class therefore succeeds exactly if no error was pending
before, and then it appends the code of all sections (`Blueprint.write_of_error_eq_none`).  A fresh
unit has no pending error, so each blueprint has a file.
-/

namespace ValueBuilder

namespace SourceUnit

theorem level_write (u : SourceUnit) (s : Statement) : (u.write s).level = u.level := by
  have hput (u : SourceUnit) (text : String) : (u.put text).level = u.level := by
    rw [put]
    split <;> rfl
  cases s with
  | verbatim words => exact hput u _
  | template text args =>
    rw [write, addLine, hput, add]
    split
    · rfl
    · dsimp only
      split
      · rw [hput, mention]
      · rfl

/-- Code does not change the level of a unit. -/
theorem level_append (u : SourceUnit) (code : Code) : (u.append code).level = u.level := by
  induction code generalizing u with
  | nil => rfl
  | cons s code ih => exact (ih (u.write s)).trans (u.level_write s)

/-- While an error is pending, code has no effect. -/
theorem append_of_error_eq_some {u : SourceUnit} {cause : TemplateError} (h : u.error = some cause)
    (code : Code) : u.append code = u := by
  have hwrite (s : Statement) : u.write s = u := by
    cases s <;> simp [write, addLine, line, add, put, h]
  induction code with
  | nil => rfl
  | cons s code ih =>
    rw [append, List.foldl_cons, hwrite]
    exact ih

theorem append_append (u : SourceUnit) (first second : Code) :
    u.append (first ++ second) = (u.append first).append second :=
  List.foldl_append

end SourceUnit

namespace Blueprint

variable {b : Blueprint} {generator : String} {u : SourceUnit}

/-! ## Sections -/

/-- The code of all sections of the generated class. -/
def classCode (generator : String) (level : SourceLevel) (b : Blueprint) : Code :=
  b.sections.flatMap (·.code generator level b)

theorem fits_classCode (generator : String) (level : SourceLevel) (b : Blueprint) :
    (b.classCode generator level).Fits := by
  rw [classCode, Code.fits_flatMap]
  exact fun s _ => s.fits_code generator level b

/-- One section fails exactly if an error was pending before it. -/
theorem writeSection_eq (generator : String) (b : Blueprint) (u : SourceUnit) (s : Section) :
    b.writeSection generator u s =
      match u.error with
      | none => .ok (u.append (s.code generator u.level b))
      | some cause => .error ⟨b.target.qualifiedName, s, cause⟩ := by
  have herror : (u.append (s.code generator u.level b)).error = u.error :=
    SourceUnit.error_append (s.fits_code generator u.level b)
  rw [writeSection]
  simp only [herror]
  cases u.error <;> rfl

/-- A run over sections appends their code if no error was pending before it. -/
theorem foldlM_writeSection (h : u.error = none) (sections : List Section) :
    sections.foldlM (b.writeSection generator) u =
      .ok (u.append (sections.flatMap (·.code generator u.level b))) := by
  induction sections generalizing u with
  | nil => rfl
  | cons s sections ih =>
    have herror : (u.append (s.code generator u.level b)).error = none := by
      rw [SourceUnit.error_append (s.fits_code generator u.level b), h]
    rw [List.foldlM_cons, writeSection_eq, h, List.flatMap_cons, SourceUnit.append_append]
    have hrun := ih herror
    rw [SourceUnit.level_append] at hrun
    exact hrun

/-! ## Classes -/

/-- The header is the first section of every blueprint. -/
theorem sections_eq_cons (b : Blueprint) : ∃ rest, b.sections = .header :: rest :=
  ⟨_, rfl⟩

/-- Writing into a unit without a pending error appends the code of all sections. -/
theorem write_of_error_eq_none (h : u.error = none) :
    b.write generator u =
      .ok ((u.reserve b.memberClasses).append (b.classCode generator u.level)) := by
  have hreserved : (u.reserve b.memberClasses).error = none := h
  rw [write, foldlM_writeSection hreserved, classCode]
  rfl

/-- Writing into a unit with a pending error stops behind the header. -/
theorem write_of_error_eq_some {cause : TemplateError} (h : u.error = some cause) :
    b.write generator u = .error ⟨b.target.qualifiedName, .header, cause⟩ := by
  obtain ⟨rest, hsections⟩ := b.sections_eq_cons
  have hreserved : (u.reserve b.memberClasses).error = some cause := h
  rw [write, hsections, List.foldlM_cons, writeSection_eq, hreserved]
  rfl

theorem exists_write_eq_ok_iff : (∃ u', b.write generator u = .ok u') ↔ u.error = none := by
  cases h : u.error with
  | none => exact iff_of_true ⟨_, write_of_error_eq_none h⟩ rfl
  | some cause =>
    refine iff_of_false ?_ (by simp)
    rintro ⟨u', hwrite⟩
    rw [write_of_error_eq_some h] at hwrite
    cases hwrite

theorem write_eq_error_iff {failure : EmissionError} :
    b.write generator u = .error failure ↔
      ∃ cause, u.error = some cause ∧ failure = ⟨b.target.qualifiedName, .header, cause⟩ := by
  cases h : u.error with
  | none => simp [write_of_error_eq_none h]
  | some cause => simp [write_of_error_eq_some h, eq_comm]

/-! ## Files -/

/-- Every blueprint has a file, whatever the settings. -/
theorem exists_file_eq_ok (settings : Settings) (b : Blueprint) :
    ∃ file, b.file settings = .ok file := by
  let fresh := SourceUnit.ofPackage b.target.package settings.level
  let u := (fresh.reserve b.memberClasses).append (b.classCode settings.generator fresh.level)
  have hwrite : b.write settings.generator fresh = .ok u := write_of_error_eq_none rfl
  have herror : u.error = none :=
    SourceUnit.error_append (b.fits_classCode settings.generator fresh.level)
  have hfinish : u.finish = .ok (SourceUnit.preamble u.spelling ++ u.body) := by
    rw [SourceUnit.finish, herror]
  have hcode : b.code settings = .ok (SourceUnit.preamble u.spelling ++ u.body) := by
    show (b.write settings.generator fresh >>= fun u => u.finish.mapError _) = _
    rw [hwrite]
    show u.finish.mapError _ = _
    rw [hfinish]
    rfl
  rw [file, hcode]
  exact ⟨_, rfl⟩

end Blueprint

end ValueBuilder
