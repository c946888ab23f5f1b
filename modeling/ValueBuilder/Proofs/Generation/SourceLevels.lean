import Mathlib.Data.List.Basic
import ValueBuilder.Proofs.Builder.WrittenUnits
import ValueBuilder.Proofs.Source.Chunks
import ValueBuilder.Proofs.Source.ReservedNames

/-!
# Source levels

What a later level changes in a file: the constructor calls of new collections leave their type
arguments to the compiler.

* `Spelling.mentionAll_of_subset`: to name classes again has no effect.  The type arguments of a
  constructor call have been named by the declaration in front of it, so all levels agree about the
  names of a file (`Blueprint.namesIn_eq`).
* `Property.text_builderField` is the text of a field at each level.
* `Blueprint.levels_differ_in_constructor_calls` compares the files of two levels.
-/

namespace ValueBuilder

open Java

/-! ## Names at all levels -/

namespace Spelling

variable {spelling : Spelling} {named again : List ClassName} {c : ClassName}

theorem mention_of_mem (hc : c ∈ named) :
    (spelling.mentionAll named).mention c = spelling.mentionAll named := by
  cases spelling with
  | bare => rw [mentionAll_bare, mention]
  | importing table =>
    rw [mentionAll_importing, mention, NameTable.mention_foldl_mention_of_mem hc]

/-- To name classes again has no effect. -/
theorem mentionAll_of_subset (h : ∀ c ∈ again, c ∈ named) :
    (spelling.mentionAll named).mentionAll again = spelling.mentionAll named := by
  induction again with
  | nil => rfl
  | cons c again ih =>
    obtain ⟨hc, hrest⟩ := List.forall_mem_cons.1 h
    have hcons : (spelling.mentionAll named).mentionAll (c :: again) =
        ((spelling.mentionAll named).mention c).mentionAll again := rfl
    rw [hcons, mention_of_mem hc, ih hrest]

end Spelling

/-- Whether any unit gives out the same names for two pieces of code. -/
def Code.NamesAlike (first second : Code) : Prop :=
  ∀ spelling : Spelling, spelling.mentionAll first.classes = spelling.mentionAll second.classes

namespace Code.NamesAlike

variable {first second third fourth : Code}

theorem refl (code : Code) : code.NamesAlike code :=
  fun _ => rfl

theorem append (h : first.NamesAlike second) (h' : third.NamesAlike fourth) :
    (first ++ third).NamesAlike (second ++ fourth) := by
  intro spelling
  rw [classes_append, classes_append, Spelling.mentionAll_append, Spelling.mentionAll_append,
    h spelling, h']

theorem flatMap {α : Type} {f g : α → Code} (h : ∀ x, (f x).NamesAlike (g x)) (xs : List α) :
    Code.NamesAlike (xs.flatMap f) (xs.flatMap g) := by
  induction xs with
  | nil => exact refl []
  | cons x xs ih =>
    rw [List.flatMap_cons, List.flatMap_cons]
    exact (h x).append ih

/-- Code that names some of its classes once more. -/
theorem of_classes_eq {again : List ClassName} (h : first.classes = second.classes ++ again)
    (hagain : ∀ c ∈ again, c ∈ second.classes) : first.NamesAlike second := by
  intro spelling
  rw [h, Spelling.mentionAll_append, Spelling.mentionAll_of_subset hagain]

end Code.NamesAlike

theorem Code.text_flatMap {α : Type} (spelling : Spelling) (xs : List α) (f : α → Code) :
    Code.text spelling (xs.flatMap f) = String.join (xs.map fun x => (f x).text spelling) := by
  induction xs with
  | nil => rfl
  | cons x xs ih => rw [List.flatMap_cons, text_append, ih, List.map_cons, String.join_cons]

/-! ## Fields -/

/-- The type arguments in a constructor call. -/
def SourceLevel.callArguments (spelling : Spelling) (args : List JavaType) : SourceLevel → String
  | java6 => JavaType.renderArgs spelling.spell args
  | java7 => "<>"

namespace Property

/-- The class of the new collection that the builder's field starts with, and its type arguments. -/
def newCollection? (p : Property) : Option (ClassName × List JavaType) :=
  match p.strategy with
  | .plain .. | .optional .. => none
  | .list e => some (Library.arrayList, [e.type])
  | .set e => some (Library.linkedHashSet, [e.type])
  | .map key value => some (Library.linkedHashMap, [key.type, value.type])

/-- The text of the builder's field.  The type arguments of a constructor call are those of the
declaration, unless the level leaves them to the compiler. -/
def fieldText (spelling : Spelling) (level : SourceLevel) (p : Property) : String :=
  match p.newCollection? with
  | some (c, args) =>
    "  private " ++ (JavaType.declared c args).render spelling.spell ++ " " ++ p.name ++ " = new " ++
      spelling.spell c ++ level.callArguments spelling args ++ "();\n"
  | none => (p.builderField .java6).text spelling

theorem builderField_of_newCollection?_eq_none {p : Property} (h : p.newCollection? = none)
    (level : SourceLevel) : p.builderField level = p.builderField .java6 := by
  rw [builderField, builderField]
  cases hstrategy : p.strategy with
  | plain setter hasDefault => rfl
  | optional flavour methods e => rfl
  | _ => simp [newCollection?, hstrategy] at h

/-- The constructor call repeats the class, and the type arguments if the level asks for them. -/
theorem classes_builderField {p : Property} {c : ClassName} {args : List JavaType}
    (h : p.newCollection? = some (c, args)) :
    Code.classes (p.builderField .java6) =
        c :: (JavaType.classesOfArgs args ++ c :: JavaType.classesOfArgs args) ∧
      Code.classes (p.builderField .java7) = c :: (JavaType.classesOfArgs args ++ [c]) := by
  have helements (c : ClassName) (e : Element) :
      Statement.classes (p.elementsField .java6 c e) =
          c :: (e.type.classes ++ (c :: (e.type.classes ++ []))) ∧
        Statement.classes (p.elementsField .java7 c e) = c :: (e.type.classes ++ [c]) :=
    ⟨rfl, rfl⟩
  have hentries (key value : Element) :
      Statement.classes (p.entriesField .java6 key value) =
          Library.linkedHashMap :: (key.type.classes ++ (value.type.classes ++
            (Library.linkedHashMap :: (key.type.classes ++ (value.type.classes ++ []))))) ∧
        Statement.classes (p.entriesField .java7 key value) =
          Library.linkedHashMap ::
            (key.type.classes ++ (value.type.classes ++ [Library.linkedHashMap])) :=
    ⟨rfl, rfl⟩
  rw [newCollection?] at h
  cases hstrategy : p.strategy with
  | plain setter hasDefault => simp [hstrategy] at h
  | optional flavour methods e => simp [hstrategy] at h
  | list e | set e =>
    simp only [hstrategy, Option.some.injEq, Prod.mk.injEq] at h
    obtain ⟨rfl, rfl⟩ := h
    simp [builderField, hstrategy, Code.classes, helements, JavaType.classesOfArgs]
  | map key value =>
    simp only [hstrategy, Option.some.injEq, Prod.mk.injEq] at h
    obtain ⟨rfl, rfl⟩ := h
    simp [builderField, hstrategy, Code.classes, hentries, JavaType.classesOfArgs]

theorem namesAlike_builderField (level : SourceLevel) (p : Property) :
    (p.builderField .java6).NamesAlike (p.builderField level) := by
  cases level with
  | java6 => exact .refl _
  | java7 =>
    cases hcollection : p.newCollection? with
    | none =>
      rw [builderField_of_newCollection?_eq_none hcollection .java7]
      exact .refl _
    | some collection =>
      obtain ⟨c, args⟩ := collection
      obtain ⟨hjava6, hjava7⟩ := classes_builderField hcollection
      have hclasses : Code.classes (p.builderField .java6) =
          Code.classes (p.builderField .java7) ++ JavaType.classesOfArgs args := by
        rw [hjava6, hjava7]
        simp
      refine .of_classes_eq hclasses fun d hd => ?_
      rw [hjava7]
      exact List.mem_cons_of_mem _ (List.mem_append_left _ hd)

theorem line_elementsField (spelling : Spelling) (level : SourceLevel) (p : Property) (c : ClassName)
    (e : Element) : (p.elementsField level c e).line spelling =
      "  private " ++ (JavaType.declared c [e.type]).render spelling.spell ++ " " ++ p.name ++
        " = new " ++ spelling.spell c ++ level.callArguments spelling [e.type] ++ "();\n" := by
  cases level with
  | java6 | java7 =>
    rw [Statement.line_of_chunks rfl, SourceLevel.callArguments]
    simp only [JavaType.render, JavaType.renderArgs, JavaType.renderMore, String.append_assoc]
    rfl

theorem line_entriesField (spelling : Spelling) (level : SourceLevel) (p : Property)
    (key value : Element) : (p.entriesField level key value).line spelling =
      "  private " ++
        (JavaType.declared Library.linkedHashMap [key.type, value.type]).render spelling.spell ++
        " " ++ p.name ++ " = new " ++ spelling.spell Library.linkedHashMap ++
        level.callArguments spelling [key.type, value.type] ++ "();\n" := by
  cases level with
  | java6 | java7 =>
    rw [Statement.line_of_chunks rfl, SourceLevel.callArguments]
    simp only [JavaType.render, JavaType.renderArgs, JavaType.renderMore, String.append_assoc]
    rfl

theorem text_builderField (spelling : Spelling) (level : SourceLevel) (p : Property) :
    (p.builderField level).text spelling = p.fieldText spelling level := by
  cases hcollection : p.newCollection? with
  | none => rw [builderField_of_newCollection?_eq_none hcollection, fieldText, hcollection]
  | some collection =>
    simp only [fieldText, hcollection]
    rw [newCollection?] at hcollection
    cases hstrategy : p.strategy with
    | plain setter hasDefault => simp [hstrategy] at hcollection
    | optional flavour methods e => simp [hstrategy] at hcollection
    | list e | set e =>
      simp only [hstrategy, Option.some.injEq] at hcollection
      obtain rfl := hcollection
      rw [builderField, hstrategy, Code.text_cons, Code.text_nil, line_elementsField,
        String.append_empty]
    | map key value =>
      simp only [hstrategy, Option.some.injEq] at hcollection
      obtain rfl := hcollection
      rw [builderField, hstrategy, Code.text_cons, Code.text_nil, line_entriesField,
        String.append_empty]

/-- A list of strings at both levels. -/
example :
    let string : JavaType := .ofClass (.topLevel languagePackage "String")
    let p : Property := .ofGetter "names" "getNames" (.declared Library.list [string]) false
    (p.builderField .java6).text .bare =
        "  private ArrayList<String> names = new ArrayList<String>();\n" ∧
      (p.builderField .java7).text .bare =
        "  private ArrayList<String> names = new ArrayList<>();\n" := by
  decide +kernel

end Property

/-! ## Files -/

/-- Only the section of the fields is written according to the level. -/
theorem Section.code_of_ne_fields {s : Section} (h : s ≠ .fields) (generator : String)
    (level : SourceLevel) (b : Blueprint) :
    s.code generator level b = s.code generator .java6 b := by
  cases s with
  | fields => exact absurd rfl h
  | _ => rfl

namespace Blueprint

variable (package generator : String) (b : Blueprint)

theorem exists_classCode_eq : ∃ opening rest : Code, ∀ level, b.classCode generator level =
    opening ++ (b.properties.flatMap (·.builderField level) ++ rest) := by
  let before : List Section := if b.hasRequired then [.header, .propertyEnum] else [.header]
  let after : List Section :=
    .accessors :: .valueType :: ((if b.gwtSerializable then [.serializer] else []) ++
      [.build, .mergeFromValue, .mergeFromBuilder, .clear, .partialType, .buildPartial, .footer])
  have hsections : b.sections = before ++ .fields :: after := by
    cases hrequired : b.hasRequired <;> cases hserializer : b.gwtSerializable <;>
      simp [sections, Section.all, Section.appliesTo, before, after, hrequired, hserializer]
  have hbefore : ∀ s ∈ before, s ≠ .fields := by
    cases hrequired : b.hasRequired <;> simp [before, hrequired]
  have hafter : ∀ s ∈ after, s ≠ .fields := by
    cases hserializer : b.gwtSerializable <;> simp [after, hserializer]
  have hcode (level : SourceLevel) (sections : List Section) (h : ∀ s ∈ sections, s ≠ .fields) :
      sections.flatMap (·.code generator level b) =
        sections.flatMap (·.code generator .java6 b) :=
    List.flatMap_congr fun s hs => Section.code_of_ne_fields (h s hs) generator level b
  let blank : Statement := ""
  let unset : Code :=
    if b.hasRequired then
      [.template "  private final %s<%s> _unsetProperties =" [Library.enumSet, b.propertyEnum],
        .template "      %s.allOf(%s.class);" [Library.enumSet, b.propertyEnum]]
    else []
  have hfields (level : SourceLevel) : Section.fields.code generator level b =
      blank :: (b.properties.flatMap (·.builderField level) ++ unset) := by
    simp only [Section.code, fields, joined, List.flatten_cons, List.flatten_nil, List.append_nil,
      List.singleton_append, blank, unset]
  refine ⟨before.flatMap (·.code generator .java6 b) ++ [blank],
    unset ++ after.flatMap (·.code generator .java6 b), fun level => ?_⟩
  rw [classCode, hsections, List.flatMap_append, List.flatMap_cons, hcode level before hbefore,
    hcode level after hafter, hfields]
  simp only [List.append_assoc, List.cons_append, List.nil_append]

/-- All levels give out the same names. -/
theorem namesIn_eq (level : SourceLevel) :
    b.namesIn package generator level = b.namesIn package generator .java6 := by
  have hcode : (b.classCode generator .java6).NamesAlike (b.classCode generator level) := by
    obtain ⟨opening, rest, hcode⟩ := b.exists_classCode_eq generator
    rw [hcode, hcode]
    have hfields := Code.NamesAlike.flatMap (Property.namesAlike_builderField level) b.properties
    exact (Code.NamesAlike.refl opening).append (hfields.append (.refl rest))
  have hnames := hcode
    (.importing (b.memberClasses.foldl NameTable.reserve (.empty package)))
  rw [Spelling.mentionAll_importing, Spelling.mentionAll_importing] at hnames
  exact (Spelling.importing.inj hnames).symm

/-- The files of all levels have the same package line and imports, and the same bodies except for
the constructor calls in the declarations of fields that hold collections.  Without such fields they
are equal. -/
theorem levels_differ_in_constructor_calls :
    ∃ (table : NameTable) (opening rest : String),
      (∀ level, ∃ u, b.write generator (.ofPackage package level) = .ok u ∧
        u.body = opening ++
          String.join (b.properties.map (·.fieldText (.importing table) level)) ++ rest ∧
        u.finish = .ok (SourceUnit.packageLine package ++ SourceUnit.importBlock table.imports ++
          u.body)) ∧
      ((∀ p ∈ b.properties, p.newCollection? = none) →
        ∃ file, ∀ level, ∃ u, b.write generator (.ofPackage package level) = .ok u ∧
          u.finish = .ok file) := by
  obtain ⟨opening, rest, hcode⟩ := b.exists_classCode_eq generator
  let table := b.namesIn package generator .java6
  have hpackage : table.package = package := NameTable.package_ofRun _ _ _
  let body (level : SourceLevel) : String :=
    opening.text (.importing table) ++
      String.join (b.properties.map (·.fieldText (.importing table) level)) ++
        rest.text (.importing table)
  have hbody (level : SourceLevel) :
      (b.classCode generator level).text (.importing table) = body level := by
    have hfields := Code.text_flatMap (.importing table) b.properties (·.builderField level)
    simp only [Property.text_builderField] at hfields
    rw [hcode, Code.text_append, Code.text_append, hfields, ← String.append_assoc]
  have hwrite (level : SourceLevel) : b.write generator (.ofPackage package level) =
      .ok ⟨body level, .importing table, level, none⟩ := by
    rw [write_inPackage, b.namesIn_eq, hbody]
  have hfinish (level : SourceLevel) :
      (SourceUnit.mk (body level) (.importing table) level none).finish =
        .ok (SourceUnit.packageLine package ++ SourceUnit.importBlock table.imports ++
          body level) := by
    rw [SourceUnit.finish_importing, hpackage]
  refine ⟨table, opening.text (.importing table), rest.text (.importing table), ?_, ?_⟩
  · exact fun level => ⟨_, hwrite level, rfl, hfinish level⟩
  · intro hplain
    -- The text of a field without a new collection is the same at all levels.
    have hfields (level : SourceLevel) :
        b.properties.map (·.fieldText (.importing table) level) =
          b.properties.map (·.fieldText (.importing table) .java6) := by
      refine List.map_congr_left fun p hp => ?_
      simp only [Property.fieldText, hplain p hp]
    have hsame (level : SourceLevel) : body level = body .java6 := by
      simp only [body, hfields level]
    exact ⟨_, fun level => ⟨_, hwrite level, (hfinish level).trans (by rw [hsame])⟩⟩

end Blueprint

end ValueBuilder
