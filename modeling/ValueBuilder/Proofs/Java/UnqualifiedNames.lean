import ValueBuilder.Proofs.Java.TypeParsing

/-!
# Unqualified names

What a single name denotes in a compilation unit, and what a type expression that is a single name
is read as.

* `TypeScope.Denotes` is the rule of compilation units: the last import of the name, else the class
  of `java.lang`, else the class of the unit's own package.  `lookup` follows it, so that each
  name denotes one class (`TypeScope.denotes_lookup`, `TypeScope.Denotes.eq_lookup`).
* `Grammar.parse_single` says what is read: a name that is no keyword is resolved, and has no type
  arguments.
* `Grammar.unqualified_name_resolved_iff` compares the two.  A name without a capital is taken for a
  qualified one and never looked up; `Grammar.unqualified_name_not_imported` is such a name.
-/

namespace ValueBuilder.Java

/-! ## The rule of compilation units -/

namespace TypeScope

variable {scope : TypeScope} {name : String} {c : ClassName}

/-- What an unqualified name denotes in a compilation unit. -/
inductive Denotes (scope : TypeScope) (name : String) : ClassName → Prop
  /-- The last import of the name. -/
  | imported {before behind : List ClassName} {c : ClassName}
      (himports : scope.imports = before ++ c :: behind) (hname : c.simpleName = name)
      (hlast : ∀ d ∈ behind, d.simpleName ≠ name) : Denotes scope name c
  /-- A class that needs no import. -/
  | language (hfree : ∀ d ∈ scope.imports, d.simpleName ≠ name)
      (hlanguage : name ∈ Library.languageClassNames) :
      Denotes scope name (.topLevel languagePackage name)
  /-- A class of the unit's own package. -/
  | own (hfree : ∀ d ∈ scope.imports, d.simpleName ≠ name)
      (hlanguage : name ∉ Library.languageClassNames) :
      Denotes scope name (.topLevel scope.package name)

/-- The first import from behind is the last one. -/
theorem find?_reverse_imports_eq_some_iff :
    scope.imports.reverse.find? (·.simpleName == name) = some c ↔
      ∃ before behind, scope.imports = before ++ c :: behind ∧ c.simpleName = name ∧
        ∀ d ∈ behind, d.simpleName ≠ name := by
  rw [List.find?_eq_some_iff_append]
  constructor
  · rintro ⟨hname, behind, before, himports, hlast⟩
    refine ⟨before.reverse, behind.reverse, ?_, by simpa using hname, by simpa using hlast⟩
    have hreverse := congrArg List.reverse himports
    simpa using hreverse
  · rintro ⟨before, behind, himports, hname, hlast⟩
    exact ⟨by simpa using hname, behind.reverse, before.reverse, by simp [himports],
      by simpa using hlast⟩

/-- What is looked up is what the name denotes. -/
theorem denotes_lookup (scope : TypeScope) (name : String) :
    scope.Denotes name (scope.lookup name) := by
  rw [lookup]
  split
  · next imported hfind =>
    obtain ⟨before, behind, himports, hname, hlast⟩ := find?_reverse_imports_eq_some_iff.1 hfind
    exact .imported himports hname hlast
  · next hfind =>
    have hfree : ∀ d ∈ scope.imports, d.simpleName ≠ name := by simpa using hfind
    split
    · next hlanguage => exact .language hfree (by simpa using hlanguage)
    · next hlanguage => exact .own hfree (by simpa using hlanguage)

/-- A name denotes nothing else. -/
theorem Denotes.eq_lookup (h : scope.Denotes name c) : c = scope.lookup name := by
  have hnone (hfree : ∀ d ∈ scope.imports, d.simpleName ≠ name) :
      scope.imports.reverse.find? (·.simpleName == name) = none := by
    simpa using hfree
  cases h with
  | imported himports hname hlast =>
    rw [lookup, find?_reverse_imports_eq_some_iff.2 ⟨_, _, himports, hname, hlast⟩]
  | language hfree hlanguage => simp [lookup, hnone hfree, hlanguage]
  | own hfree hlanguage => simp [lookup, hnone hfree, hlanguage]

end TypeScope

/-! ## What is read -/

namespace Grammar

variable {scope : TypeScope} {name : String}

/-- A type expression of one name is the class that the name is resolved to. -/
theorem parse_single (hname : isIdentifier name = true) (hclass : NamesClass name []) :
    scope.parse name = .ok (.ofClass (scope.resolve name [])) := by
  have hword : Word name.toList name [] := ⟨(List.append_nil _).symm, hname, by simp⟩
  have htype : TypeText scope name.toList (.ofClass (scope.resolve name [])) [] :=
    .declared ⟨[], by simp, rfl⟩ (.last hword) hclass .none .none
  exact parse_eq_ok_iff_denotes.2 ⟨[], htype, by simp⟩

/-- An unqualified name is read as the class that it denotes exactly if it begins with a capital, or
if it denotes a class of the default package.  Any other name is read as a class of the default
package nonetheless. -/
theorem unqualified_name_resolved_iff (scope : TypeScope) {name : String}
    (hname : isIdentifier name = true) (hprimitive : ∀ p : Primitive, name ≠ p.name)
    (hvoid : name ≠ "void") :
    ∃ c read, scope.Denotes name c ∧ (∀ d, scope.Denotes name d → d = c) ∧
      scope.parse name = .ok (.declared read []) ∧
      (startsWithCapital name = false → read = .topLevel "" name) ∧
      (read = c ↔ startsWithCapital name = true ∨ c = .topLevel "" name) := by
  refine ⟨scope.lookup name, scope.resolve name [], scope.denotes_lookup name,
    fun d hd => hd.eq_lookup,
    parse_single hname fun _ => ⟨hprimitive, hvoid⟩, ?_, ?_⟩
  · intro hsmall
    rw [TypeScope.resolve, hsmall]
    rfl
  · cases hcapital : startsWithCapital name with
    | true =>
      have hread : scope.resolve name [] = scope.lookup name := by
        rw [TypeScope.resolve, hcapital]
        rfl
      simp [hread]
    | false =>
      have hread : scope.resolve name [] = .topLevel "" name := by
        rw [TypeScope.resolve, hcapital]
        rfl
      simp [hread, eq_comm]

/-- A name with a capital that is imported twice. -/
theorem unqualified_name_resolved_iff_thing :
    let scope : TypeScope := ⟨"com.example", [⟨"a", "Thing", []⟩, ⟨"b", "Thing", []⟩]⟩
    isIdentifier "Thing" = true ∧ (∀ p : Primitive, "Thing" ≠ p.name) ∧ "Thing" ≠ "void" ∧
      ∃ c read, scope.Denotes "Thing" c ∧ (∀ d, scope.Denotes "Thing" d → d = c) ∧
        scope.parse "Thing" = .ok (.declared read []) ∧
        (startsWithCapital "Thing" = false → read = .topLevel "" "Thing") ∧
        (read = c ↔ startsWithCapital "Thing" = true ∨ c = .topLevel "" "Thing") := by
  intro scope
  have hname : isIdentifier "Thing" = true := by decide +kernel
  have hprimitive : ∀ p : Primitive, "Thing" ≠ p.name := by
    intro p
    cases p <;> decide
  have hvoid : "Thing" ≠ "void" := by decide
  exact ⟨hname, hprimitive, hvoid, unqualified_name_resolved_iff scope hname hprimitive hvoid⟩

/-- A class without a capital is imported, and its name is read as a class of the default package. -/
theorem unqualified_name_not_imported :
    let imported : ClassName := .topLevel "com.other" "thing"
    let scope : TypeScope := ⟨"com.example", [imported]⟩
    ClassName.parse "com.other.thing" = .ok imported ∧ scope.Denotes "thing" imported ∧
      scope.parse "thing" = .ok (.declared (.topLevel "" "thing") []) ∧
        scope.parse "thing" ≠ .ok (.declared imported []) := by
  intro imported scope
  have himport : ClassName.parse "com.other.thing" = .ok imported := by
    rfl
  have hread : scope.parse "thing" = .ok (.declared (.topLevel "" "thing") []) := by
    refine parse_single (by decide +kernel) fun _ => ⟨fun p => ?_, by decide⟩
    cases p <;> decide
  have himports : scope.imports = [] ++ imported :: [] := rfl
  refine ⟨himport, .imported himports rfl (by simp), hread, ?_⟩
  rw [hread]
  simp [imported, ClassName.topLevel]

end Grammar

end ValueBuilder.Java
