import ValueBuilder.Proofs.Builder.MethodSignatures
import ValueBuilder.Proofs.Builder.PlainNames
import ValueBuilder.Proofs.Declaration.ClassNames
import ValueBuilder.Proofs.Declaration.PropertyNames
import ValueBuilder.Proofs.Unicode.Capitals

/-!
# Declared names are plain

A declaration is converted only if its names are identifiers, and identifiers have no brackets, no
quotes and no line breaks.  So none of these can get from a declaration into generated code.

* `plain_of_isIdentifier` is about identifiers, and `plain_capitalize` and `plain_constantCase` are
  about names that are derived from them.
* `TypeDeclaration.ReadsNames.resolvesTo_isPlain`: the classes in types are made of identifiers.
* `TypeDeclaration.isPlain_of_convert` puts them together.
-/

namespace ValueBuilder

open Java

/-! ## Identifiers -/

theorem Java.notMem_marks_of_isIdentifierPart {c : Char} (h : isIdentifierPart c = true) :
    c ∉ marks := by
  intro hmark
  have hmarks : marks.all (!isIdentifierPart ·) = true := by decide
  simpa [h] using List.all_eq_true.1 hmarks c hmark

variable {name : String}

theorem plain_of_all_isIdentifierPart (h : name.toList.all isIdentifierPart = true) : Plain name :=
  fun c hc => notMem_marks_of_isIdentifierPart (List.all_eq_true.1 h c hc)

theorem plain_of_isIdentifier (h : isIdentifier name = true) : Plain name :=
  plain_of_all_isIdentifierPart (all_isIdentifierPart_of_spellsIdentifier h)

/-! ## Names in capitals -/

theorem plain_capitalize (h : Plain name) : Plain (capitalize name) := by
  intro d hd
  rw [capitalize] at hd
  cases hchars : name.toList with
  | nil =>
    rw [hchars] at hd
    cases hd
  | cons c cs =>
    rw [Plain, hchars, List.forall_mem_cons] at h
    obtain ⟨hc, hcs⟩ := h
    rw [hchars, String.toList_ofList, List.mem_append] at hd
    rcases hd with hd | hd
    · exact Unicode.notMem_marks_of_mem_upper hc hd
    · exact hcs d hd

/-- Between the words of a name there are underscores. -/
theorem mem_underscored {cs : List Char} {d : Char} (h : d ∈ underscored cs) :
    d = '_' ∨ d ∈ cs := by
  have hhere {c : Char} {cs : List Char} (hd : d = if isWordSeparator c then '_' else c) :
      d = '_' ∨ d ∈ c :: cs := by
    split at hd
    · exact .inl hd
    · exact .inr (List.mem_cons.2 (.inl hd))
  fun_induction underscored cs with
  | case1 => cases h
  | case2 c => exact hhere (List.mem_singleton.1 h)
  | case3 c next cs here hmeets ih =>
    rw [List.mem_cons, List.mem_cons] at h
    rcases h with hd | hd | hd
    · exact hhere hd
    · exact .inl hd
    · exact (ih hd).imp_right (List.mem_cons_of_mem c)
  | case4 c next cs here hmeets ih =>
    rw [List.mem_cons] at h
    rcases h with hd | hd
    · exact hhere hd
    · exact (ih hd).imp_right (List.mem_cons_of_mem c)

theorem plain_constantCase (h : Plain name) : Plain (constantCase name) := by
  intro d hd
  rw [constantCase, String.toList_ofList, List.mem_flatMap] at hd
  obtain ⟨c, hc, hd⟩ := hd
  refine Unicode.notMem_marks_of_mem_upper ?_ hd
  rcases mem_underscored hc with rfl | hc
  · decide
  · exact h c hc

/-! ## Classes -/

namespace Java.ClassName

variable {c : ClassName}

theorem isPlain_ofSegments {first : String} {rest : List String}
    (h : ∀ s ∈ first :: rest, isIdentifier s = true) : (ofSegments first rest).IsPlain := by
  unfold IsPlain
  rw [qualifiedName_ofSegments fun s hs => ne_empty_of_isIdentifier (h s hs)]
  exact Plain.intercalate (by decide) fun s hs => plain_of_isIdentifier (h s hs)

theorem isPlain_of_parse {text : String} (h : ClassName.parse text = .ok c) : c.IsPlain := by
  obtain ⟨first, rest, -, hidentifiers, rfl⟩ := parts_of_parse h
  exact isPlain_ofSegments hidentifiers

theorem plain_package_of_parse {text : String} (h : ClassName.parse text = .ok c) :
    Plain c.package := by
  obtain ⟨segments, hsegments, hpackage, -⟩ := exists_package_of_parse h
  rw [hpackage]
  exact Plain.intercalate (by decide) fun s hs => plain_of_isIdentifier (hsegments s hs)

end Java.ClassName

namespace TypeDeclaration

variable {declaration : TypeDeclaration} {conversion : Conversion} {target : ClassName}
  {scope : TypeScope}

/-- The classes that the types of a declaration name are made of identifiers. -/
theorem ReadsNames.resolvesTo_isPlain (h : declaration.ReadsNames target scope) :
    scope.ResolvesTo ClassName.IsPlain := by
  intro first others hnames
  obtain ⟨hfirst, hothers⟩ := List.forall_mem_cons.1 hnames
  have hlookup : (scope.lookup first).IsPlain := by
    rw [TypeScope.lookup]
    split
    · next imported hfind =>
      have hmem := List.mem_reverse.1 (List.mem_of_find?_eq_some hfind)
      obtain ⟨name, -, hparse⟩ := exists_mem_of_forall₂ h.imports hmem
      exact ClassName.isPlain_of_parse hparse
    · split
      · exact ClassName.isPlain_topLevel (by decide) (plain_of_isIdentifier hfirst)
      · refine ClassName.isPlain_topLevel ?_ (plain_of_isIdentifier hfirst)
        rw [h.package]
        exact ClassName.plain_package_of_parse h.typeName
  rw [TypeScope.resolve]
  split
  · apply List.foldlRecOn (motive := ClassName.IsPlain) _ _ hlookup
    intro c hc name hname
    exact hc.nested (plain_of_isIdentifier (hothers name hname))
  · exact ClassName.isPlain_ofSegments hnames

end TypeDeclaration

/-! ## Properties -/

theorem Java.JavaType.plain_display {t : JavaType} (h : ∀ c ∈ t.classes, c.IsPlain) :
    Plain t.display :=
  t.plain_render h

/-- What a strategy takes from the name and the type of a property is plain if these are. -/
theorem Strategy.plain_of_mem_texts {r : Request} (hcapitalized : Plain r.capitalized)
    (hdeclared : ∀ c ∈ r.declared.classes, c.IsPlain) : ∀ text ∈ (bind r).texts, Plain text := by
  have helement : ∀ t ∈ (bind r).elementTypes, Plain t.display := by
    intro t ht
    obtain ⟨index, rfl⟩ := exists_argumentBound_of_bind ht
    refine JavaType.plain_display fun c hc => ?_
    rcases JavaType.mem_classes_argumentBound hc with hc | rfl
    · exact hdeclared c hc
    · exact ClassName.isPlain_topLevel (by decide) (by decide)
  have hnamed := isNamedAfter_bind r
  cases hbind : bind r with
  | plain setter hasDefault =>
    rw [hbind] at hnamed
    intro text htext
    rw [List.mem_singleton.1 htext, show setter = _ from hnamed]
    exact Plain.append (by decide) hcapitalized
  | optional flavour methods e =>
    rw [hbind] at hnamed helement
    have htype : Plain e.type.display := by simpa [elementTypes] using helement
    rw [texts, show methods = _ from hnamed]
    simp only [List.forall_mem_cons, List.not_mem_nil, false_implies, implies_true, and_true]
    exact ⟨Plain.append (by decide) hcapitalized, Plain.append (by decide) hcapitalized,
      Plain.append (by decide) hcapitalized, htype⟩
  | list e | set e | map key value =>
    rw [hbind] at helement
    simpa [texts, elementTypes] using helement

theorem Property.isPlain_ofGetter {getter : String} {type : JavaType} {hasDefault : Bool}
    (hname : Plain name) (hgetter : Plain getter) (htype : ∀ c ∈ type.classes, c.IsPlain) :
    (ofGetter name getter type hasDefault).IsPlain := by
  have hcapitalized : Plain (capitalize name) := plain_capitalize hname
  have hstrategy := Strategy.plain_of_mem_texts (r := ⟨type, capitalize name, hasDefault⟩)
    hcapitalized htype
  intro text htext
  simp only [ofGetter, texts, List.mem_cons, List.cons_append, List.nil_append] at htext
  rcases htext with rfl | rfl | rfl | rfl | rfl | htext
  · exact plain_constantCase hname
  · exact hname
  · exact hcapitalized
  · exact hgetter
  · exact JavaType.plain_display htype
  · exact hstrategy text htext

/-! ## Converted declarations -/

namespace TypeDeclaration

variable {declaration : TypeDeclaration} {conversion : Conversion}

/-- The name of a property has the characters of its getter, but for the first one. -/
theorem plain_name_of_convert (h : declaration.convert = .ok conversion) {p : Property}
    (hp : p ∈ conversion.blueprint.properties) : Plain p.name ∧ Plain p.getter := by
  obtain ⟨hgetter, hname⟩ := name_of_convert h hp
  refine ⟨?_, plain_of_isIdentifier hgetter⟩
  rw [hname, nameOfGetter]
  split
  · cases hstem : getterStem? p.getter p.type with
    | none => exact plain_of_isIdentifier hgetter
    | some stem =>
      obtain ⟨first, rest, hchars, hparts, -⟩ := exists_toList_decapitalize hgetter hstem
      exact plain_of_all_isIdentifierPart (hchars ▸ hparts)
  · exact plain_of_isIdentifier hgetter

/-- No name and no type of a converted declaration has brackets, quotes or line breaks. -/
theorem isPlain_of_convert (h : declaration.convert = .ok conversion) :
    conversion.blueprint.IsPlain := by
  have hparse := parse_name_of_convert h
  obtain ⟨hbuilder, hgenerated⟩ := names_of_convert h
  have htarget : conversion.blueprint.target.IsPlain := ClassName.isPlain_of_parse hparse
  constructor
  case target => exact htarget
  case builder =>
    obtain ⟨target, scope, types, hnames, -⟩ := convert_eq_ok_iff.1 h
    rw [hbuilder]
    exact htarget.nested (plain_of_isIdentifier hnames.builderName)
  case generated =>
    rw [hgenerated]
    refine ClassName.isPlain_topLevel (ClassName.plain_package_of_parse hparse) ?_
    exact plain_of_isIdentifier
      (ClassName.isIdentifier_append (ClassName.isNamed_of_parse hparse).flatName (by decide))
  case properties =>
    intro p hp
    obtain ⟨hname, hgetter⟩ := plain_name_of_convert h hp
    obtain ⟨scope, hnames, property, type, name, hread, rfl⟩ := exists_ofGetter_of_convert h hp
    exact Property.isPlain_ofGetter hname hgetter (hnames.resolvesTo_isPlain.of_parse hread.type)

end TypeDeclaration

end ValueBuilder
