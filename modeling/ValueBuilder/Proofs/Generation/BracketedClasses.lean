import ValueBuilder.Proofs.Builder.BracketedSections
import ValueBuilder.Proofs.Builder.PlainNames
import ValueBuilder.Proofs.Builder.WrittenUnits

/-!
# Generated classes are well bracketed

The generator's own text of a class closes all that it opens (`Blueprint.effect_classCode`), and
plain names do not disturb it (`Blueprint.IsPlain.effect_text`).  So what a class appends to a unit
is well bracketed, whatever the unit.
-/

namespace ValueBuilder.Blueprint

open Java

/-- What a class appends to a unit is well bracketed if no name and no type of the blueprint has
brackets, quotes or line breaks.  A unit with a pending error refuses the class, and its body stays
as it is. -/
theorem write_wellBracketed (generator : String) (b : Blueprint) (u : SourceUnit)
    (h : ∀ text ∈ b.texts generator ++ b.properties.map (·.constant), Plain text) :
    (u.error = none → ∃ text written, b.write generator u = .ok written ∧
      written.body = u.body ++ text ∧ WellBracketed text) ∧
    ∀ cause, u.error = some cause →
      b.write generator u = .error ⟨b.target.qualifiedName, .header, cause⟩ ∧
        ((u.reserve b.memberClasses).append (b.header generator)).body = u.body := by
  constructor
  · intro hpending
    have hgenerator : Plain generator := h generator (by simp [texts])
    have heffect := (isPlain_of_texts h).effect_text hgenerator u.level (b.finalSpelling generator u)
    rw [effect_classCode] at heffect
    exact ⟨_, _, write_eq hpending, rfl, wellBracketed_of_effect heffect⟩
  · intro cause hpending
    have hreserved : (u.reserve b.memberClasses).error = some cause := hpending
    refine ⟨write_of_error_eq_some hpending, ?_⟩
    rw [SourceUnit.append_of_error_eq_some hreserved]
    rfl

/-- A class with a required property and a list, behind other text. -/
theorem write_wellBracketed_person :
    let target : ClassName := .topLevel "com.example" "Person"
    let text : JavaType := .declared (.topLevel "java.lang" "String") []
    let name : Property := .ofGetter "name" "getName" text false
    let tags : Property := .ofGetter "tags" "getTags" (.declared Library.list [text]) false
    let b : Blueprint :=
      ⟨target, false, defaultBuilder target, some .constructor, defaultGenerated target,
        [name, tags], false, false, false, by decide, by decide, by decide⟩
    let u : SourceUnit := { SourceUnit.ofPackage "com.example" .java7 with body := "// (\x7b\n" }
    (∀ text ∈ b.texts "generator" ++ b.properties.map (·.constant), Plain text) ∧
      ∃ text written, b.write "generator" u = .ok written ∧ written.body = u.body ++ text ∧
        WellBracketed text := by
  intro target text name tags b u
  have hplain : ∀ text ∈ b.texts "generator" ++ b.properties.map (·.constant), Plain text := by
    decide +kernel
  exact ⟨hplain, (write_wellBracketed "generator" b u hplain).1 rfl⟩

end ValueBuilder.Blueprint
