import ValueBuilder.Proofs.Builder.Emission
import ValueBuilder.Proofs.Builder.References
import ValueBuilder.Proofs.Builder.SilentSections
import ValueBuilder.Proofs.Source.Chunks

/-!
# Tracking what is unset

Generated code keeps the required properties that are still unset in a field, whose elements are
constants of an enum.  The sections of a class agree about both.

* `Blueprint.EnumInStep`: the enum declares what any section refers to.
* `Blueprint.TracksUnset`: with required properties, the field is declared, checked, merged, reset
  and copied.
* `Blueprint.silent_code`: without any, there is neither the field nor an enum.
* `Blueprint.unset_tracking_in_step` puts them together for what is written into a unit.
-/

namespace ValueBuilder

open Java

open scoped List

namespace Code

theorem lines_joined_nil (spelling : Spelling) : Code.lines spelling (joined []) = [] :=
  rfl

theorem lines_joined_cons (spelling : Spelling) (code : Code) (parts : List Code) :
    Code.lines spelling (joined (code :: parts)) =
      code.lines spelling ++ Code.lines spelling (joined parts) :=
  List.map_append

end Code

section Joined

variable {α : Type} {part code : List α} {parts : List (List α)}

theorem infix_joined (h : code ∈ parts) : code <:+: joined parts :=
  List.infix_of_mem_flatten h

theorem infix_joined_cons (h : part <:+: joined parts) : part <:+: joined (code :: parts) :=
  h.trans (List.suffix_append _ _).isInfix

theorem sublist_joined_cons (h : part <+ joined parts) : part <+ joined (code :: parts) :=
  h.trans (List.sublist_append_right _ _)

end Joined

/-! ## Texts of a blueprint -/

/-- The names and the texts of types that a strategy has of its own. -/
def Strategy.texts : Strategy → List String
  | plain setter _ => [setter]
  | optional _ methods e =>
    [methods.optionalSetter, methods.nullableSetter, methods.clearMethod, e.type.display]
  | list e | set e => [e.type.display]
  | map key value => [key.type.display, value.type.display]

/-- The names and the texts of types that a property has. -/
def Property.texts (p : Property) : List String :=
  [p.name, p.capitalized, p.getter, p.type.display] ++ p.strategy.texts

/-- The name of the generator, and the names and the texts of types that a blueprint has.  The
constants are left out: without required properties they are of no use. -/
def Blueprint.texts (generator : String) (b : Blueprint) : List String :=
  [generator, b.target.qualifiedName, b.builder.qualifiedName, b.generated.qualifiedName] ++
    b.properties.flatMap Property.texts

theorem Strategy.isSilent_of_texts {strategy : Strategy}
    (h : ∀ text ∈ strategy.texts, ¬Occurs unsetField text) : strategy.IsSilent := by
  cases strategy with
  | plain setter hasDefault => exact h setter (by simp [texts])
  | optional flavour methods e =>
    have hmethods : methods.IsSilent :=
      ⟨h _ (by simp [texts]), h _ (by simp [texts]), h _ (by simp [texts])⟩
    exact ⟨hmethods, JavaType.isSilent_of_display (h _ (by simp [texts]))⟩
  | list e | set e => exact JavaType.isSilent_of_display (h _ (by simp [texts]))
  | map key value =>
    exact ⟨JavaType.isSilent_of_display (h _ (by simp [texts])),
      JavaType.isSilent_of_display (h _ (by simp [texts]))⟩

theorem Property.isSilent_of_texts {p : Property} (h : ∀ text ∈ p.texts, ¬Occurs unsetField text) :
    p.IsSilent := by
  obtain ⟨hnames, hstrategy⟩ := List.forall_mem_append.1 h
  constructor
  case name => exact hnames p.name (by simp)
  case capitalized => exact hnames p.capitalized (by simp)
  case getter => exact hnames p.getter (by simp)
  case type => exact JavaType.isSilent_of_display (hnames p.type.display (by simp))
  case strategy => exact Strategy.isSilent_of_texts hstrategy

theorem Blueprint.isSilent_of_texts {generator : String} {b : Blueprint}
    (h : ∀ text ∈ b.texts generator, ¬Occurs unsetField text) : b.IsSilent := by
  obtain ⟨hnames, hproperties⟩ := List.forall_mem_append.1 h
  constructor
  case target => exact hnames b.target.qualifiedName (by simp)
  case builder => exact hnames b.builder.qualifiedName (by simp)
  case generated => exact hnames b.generated.qualifiedName (by simp)
  case properties =>
    intro p hp
    exact Property.isSilent_of_texts fun text htext =>
      hproperties text (List.mem_flatMap.2 ⟨p, hp, htext⟩)

namespace Blueprint

variable {generator : String} {level : SourceLevel} (b : Blueprint) (spelling : Spelling)

theorem hasRequired_iff : b.hasRequired = true ↔ b.required ≠ [] := by
  rw [hasRequired, Bool.not_eq_true', List.isEmpty_eq_false_iff]

/-- Without required properties, the code of a class has no trace of the field and mentions no
enum. -/
theorem silent_code (level : SourceLevel) (hrequired : b.required = [])
    (h : ∀ text ∈ b.texts generator, ¬Occurs unsetField text) :
    Silent (Code.text spelling (b.classCode generator level)).toList ∧
      ∀ s ∈ b.classCode generator level, Shape.mentionsEnum s.shape = false := by
  have hnone : b.hasRequired = false := by
    rw [hasRequired, hrequired]
    rfl
  have hsilent : Code.IsSilent (b.classCode generator level) :=
    Code.isSilent_flatMap.2 fun s hs =>
      Section.isSilent_code (isSilent_of_texts h) (h generator (by simp [texts])) hnone level hs
  refine ⟨Code.silent_text hsilent (b.fits_classCode generator level) spelling, ?_⟩
  intro s hs
  have hcheck : Shape.isQuiet s.shape = true ∧ (!Shape.mentionsEnum s.shape) = true :=
    Bool.and_eq_true _ _ ▸ (hsilent s hs).check
  exact Bool.not_eq_true' _ ▸ hcheck.2

/-! ## The enum -/

/-- The lines of the enum before its constants. -/
def enumOpening : List String :=
  ["\n", "  private enum " ++ b.propertyEnum.simpleName ++ " \x7b\n"]

/-- The line that declares the constant of a property. -/
def constantLine (p : Property) : String :=
  "    " ++ p.constant ++ "(\"" ++ p.name ++ "\"),\n"

/-- The lines of the enum behind its constants. -/
def enumClosing : List String :=
  ["    ;\n", "\n", "    private final String name;\n", "\n",
    "    private " ++ b.propertyEnum.simpleName ++ "(String name) \x7b\n",
    "      this.name = name;\n", "    \x7d\n", "\n", "    @Override public String toString() \x7b\n",
    "      return name;\n", "    \x7d\n", "  \x7d\n"]

theorem lines_propertyEnumClass :
    b.propertyEnumClass.lines spelling =
      b.enumOpening ++ b.required.map constantLine ++ b.enumClosing := by
  have hhead : (Statement.template "  private enum %s \x7b"
      [.name b.propertyEnum.simpleName]).line spelling =
      "  private enum " ++ b.propertyEnum.simpleName ++ " \x7b\n" := by
    rw [Statement.line_of_chunks rfl, String.append_assoc]
    rfl
  have hconstant (p : Property) : (Statement.template "    %s(\"%s\"),"
      [Word.constant p.constant, .name p.name]).line spelling = constantLine p := by
    rw [Statement.line_of_chunks rfl, constantLine]
    simp only [String.append_assoc]
    rfl
  have hconstructor : (Statement.template "    private %s(String name) \x7b"
      [.name b.propertyEnum.simpleName]).line spelling =
      "    private " ++ b.propertyEnum.simpleName ++ "(String name) \x7b\n" := by
    rw [Statement.line_of_chunks rfl, String.append_assoc]
    rfl
  simp only [propertyEnumClass, Code.lines_joined_cons, Code.lines_joined_nil]
  simp only [Code.lines, List.map_cons, List.map_nil, List.map_map, Function.comp_def, hhead,
    hconstant, hconstructor]
  rw [List.append_nil, ← List.append_assoc]
  rfl

/-- The enum of a blueprint declares what the code of its sections refers to. -/
structure EnumInStep (b : Blueprint) (spelling : Spelling) (code : Section → Code) : Prop where
  /-- The enum is written if any property is required. -/
  written_iff : .propertyEnum ∈ b.sections ↔ b.required ≠ []
  /-- It lists the constants of the required properties, in the order of the properties. -/
  lists : (code .propertyEnum).lines spelling =
    b.enumOpening ++ b.required.map constantLine ++ b.enumClosing
  /-- It lists no constant twice. -/
  nodup : (b.required.map (·.constant)).Nodup
  /-- A constant in the code is one that the enum lists, and its path is that of the enum. -/
  refers : ∀ part ∈ b.sections, ∀ s ∈ code part, ∀ w, .word w ∈ s.pieces →
    ∀ constant, w.constant? = some constant →
      constant ∈ b.required.map (·.constant) ∧
        (w = .constant constant ∨ w = .member b.propertyEnum constant)
  /-- The setter and the getter of a required property refer to its constant. -/
  accessors : (code .accessors).constants = b.required.flatMap fun p => [p.constant, p.constant]
  /-- So does the merge. -/
  merge : (code .mergeFromBuilder).constants = b.required.map (·.constant)
  /-- So do the getters of partial values, and then their text. -/
  partials : (code .partialType).constants =
    b.required.map (·.constant) ++ b.required.map (·.constant)

theorem enumInStep : b.EnumInStep spelling (·.code generator level b) := by
  constructor
  case written_iff =>
    rw [← hasRequired_iff]
    simp [sections, Section.all, Section.appliesTo]
  case lists => exact b.lines_propertyEnumClass spelling
  case nodup => exact b.constants_nodup
  case refers =>
    intro part _ s hs w hw constant hconstant
    have hreference : w.isReference = true := by
      cases w <;> first | rfl | cases hconstant
    have hmem : w ∈ Code.references (part.code generator level b) :=
      List.mem_flatMap.2 ⟨s, hs, Statement.mem_references hreference hw⟩
    rcases b.mem_references_code hmem with ⟨p, hp, rfl | rfl⟩ | ⟨factory, -, rfl⟩
    · obtain rfl := Option.some.inj hconstant
      exact ⟨List.mem_map_of_mem hp, .inl rfl⟩
    · obtain rfl := Option.some.inj hconstant
      exact ⟨List.mem_map_of_mem hp, .inr rfl⟩
    · cases hconstant
  case accessors =>
    rw [Code.constants, references_code, List.filterMap_flatMap]
    rfl
  case merge =>
    rw [Code.constants, references_code, List.filterMap_map, ← List.filterMap_eq_map]
    rfl
  case partials =>
    rw [Code.constants, references_code, List.filterMap_append, List.filterMap_map,
      List.filterMap_map, ← List.filterMap_eq_map]
    rfl

/-! ## The field -/

/-- The type of the field. -/
def unsetType : String :=
  spelling.spell Library.enumSet ++ "<" ++ spelling.spell b.propertyEnum ++ ">"

/-- The expression for all constants of the enum. -/
def allConstants : String :=
  spelling.spell Library.enumSet ++ ".allOf(" ++ spelling.spell b.propertyEnum ++ ".class)"

/-- The lines that declare the field. -/
def fieldLines : List String :=
  ["  private final " ++ b.unsetType spelling ++ " _unsetProperties =\n",
    "      " ++ b.allConstants spelling ++ ";\n"]

/-- The lines that make a value unless something is unset. -/
def checkLines : List String :=
  ["    " ++ spelling.spell Library.preconditions ++
      ".checkState(_unsetProperties.isEmpty(), \"Not set: %s\", _unsetProperties);\n",
    "    return new " ++ spelling.spell b.valueClass ++ "(this);\n"]

/-- The line that takes the field of another builder into a local variable. -/
def mergeLocal : String :=
  "    " ++ b.unsetType spelling ++ " " ++ Property.templateUnset b ++ " = ((" ++
    spelling.spell b.generated ++ ") " ++ b.template ++ ")._unsetProperties;\n"

/-- The path of the constant of a property. -/
def constantPath (p : Property) : String :=
  b.propertyEnum.nestedPath ++ "." ++ p.constant

/-- The line that asks that local variable for a property. -/
def mergeQuestion (p : Property) : String :=
  "    if (!" ++ Property.templateUnset b ++ ".contains(" ++ b.constantPath p ++ ")) \x7b\n"

/-- The statement that writes that line. -/
def mergeAsk (p : Property) : Statement :=
  .template "    if (!%s.contains(%s)) \x7b" [.name (Property.templateUnset b), b.constantOf p]

/-- The lines that reset the field: to what a fresh builder has, or else to all constants. -/
def resetLines : List String :=
  match b.factory with
  | some factory =>
    ["    " ++ spelling.spell b.generated ++ " " ++ b.template ++ " = " ++
        (b.newBuilder factory).render ++ ";\n",
      "    _unsetProperties.clear();\n",
      "    _unsetProperties.addAll(" ++ b.template ++ "._unsetProperties);\n"]
  | none =>
    ["    _unsetProperties.clear();\n",
      "    _unsetProperties.addAll(" ++ b.allConstants spelling ++ ");\n"]

/-- The statements that write those lines. -/
def resetStatements : Code :=
  match b.factory with
  | some factory =>
    [.template "    %s %s = %s;" [b.generated, .name b.template, b.newBuilder factory],
      "    _unsetProperties.clear();",
      .template "    _unsetProperties.addAll(%s._unsetProperties);" [.name b.template]]
  | none =>
    ["    _unsetProperties.clear();",
      .template "    _unsetProperties.addAll(%s.allOf(%s.class));"
        [Library.enumSet, b.propertyEnum]]

/-- The lines that declare the field in partial values, and that copy it from a builder. -/
def copyLines : List String :=
  ["    private final " ++ b.unsetType spelling ++ " _unsetProperties;\n",
    "      this._unsetProperties = builder._unsetProperties.clone();\n"]

/-- The field with what is unset has its place in all sections that are about it. -/
structure TracksUnset (b : Blueprint) (spelling : Spelling) (code : Section → Code) : Prop where
  /-- The sections with the enum and with the lines below are written. -/
  sections : [.propertyEnum, .fields, .build, .mergeFromBuilder, .clear, .partialType] <+ b.sections
  /-- All required properties of a new builder are unset. -/
  field : b.fieldLines spelling <:+: (code .fields).lines spelling
  /-- A value is made only if nothing is unset. -/
  check : b.checkLines spelling <:+: (code .build).lines spelling
  /-- What is unset on another builder is taken into a local variable first, which is then asked for
  each required property. -/
  merge : ∀ p ∈ b.required,
    [b.mergeLocal spelling, b.mergeQuestion p] <+ (code .mergeFromBuilder).lines spelling
  /-- Every line of the merge that refers to a constant asks that local variable. -/
  merge_only : ∀ s ∈ code .mergeFromBuilder, s.references ≠ [] →
    ∃ p ∈ b.required, s.line spelling = b.mergeQuestion p
  /-- To clear a builder resets the field. -/
  reset : b.resetLines spelling <+ (code .clear).lines spelling
  /-- A partial value has the field as well, with a copy of what was unset. -/
  copy : b.copyLines spelling <+ (code .partialType).lines spelling

variable {b} (h : b.hasRequired = true)

include h

theorem fieldLines_infix (level : SourceLevel) :
    b.fieldLines spelling <:+: (b.fields level).lines spelling := by
  have hlines : Code.lines spelling
      [.template "  private final %s<%s> _unsetProperties =" [Library.enumSet, b.propertyEnum],
        .template "      %s.allOf(%s.class);" [Library.enumSet, b.propertyEnum]] =
      b.fieldLines spelling := by
    simp only [Code.lines, List.map_cons, List.map_nil, fieldLines, unsetType, allConstants,
      String.append_assoc]
    rw [Statement.line_of_chunks rfl, Statement.line_of_chunks rfl]
    rfl
  rw [fields, if_pos h, ← hlines]
  exact (infix_joined (by simp)).map _

theorem checkLines_infix : b.checkLines spelling <:+: b.build.lines spelling := by
  have hlines : Code.lines spelling
      [.template "    %s.checkState(_unsetProperties.isEmpty(), \"Not set: %%s\", _unsetProperties);"
          [Library.preconditions],
        .template "    return new %s(this);" [b.valueClass]] = b.checkLines spelling := by
    simp only [Code.lines, List.map_cons, List.map_nil, checkLines, String.append_assoc]
    rw [Statement.line_of_chunks rfl, Statement.line_of_chunks rfl]
    rfl
  rw [build, if_pos h, if_pos h, ← hlines]
  refine List.IsInfix.map _ (infix_joined_cons (infix_joined_cons (infix_joined_cons ?_)))
  exact ⟨[], ["  \x7d"], rfl⟩

omit h in
theorem line_mergeAsk (p : Property) : (b.mergeAsk p).line spelling = b.mergeQuestion p := by
  rw [mergeAsk, Statement.line_of_chunks rfl, mergeQuestion]
  simp only [String.append_assoc]
  rfl

theorem merge_sublist {p : Property} (hp : p ∈ b.required) :
    [b.mergeLocal spelling, b.mergeQuestion p] <+ b.mergeFromBuilder.lines spelling := by
  let declare : Statement := .template "    %s<%s> %s = ((%s) %s)._unsetProperties;"
    [Library.enumSet, b.propertyEnum, .name (Property.templateUnset b), b.generated,
      .name b.template]
  have hdeclare : declare.line spelling = b.mergeLocal spelling := by
    rw [Statement.line_of_chunks rfl, mergeLocal, unsetType]
    simp only [String.append_assoc]
    rfl
  have hask : [b.mergeAsk p] <+ joined
      [b.properties.flatMap fun p => p.mergeBuilder b b.template, [b.returnBuilder, "  \x7d"]] := by
    obtain ⟨hmem, hunset⟩ := List.mem_filter.1 hp
    have hask : b.mergeAsk p ∈ p.mergeBuilder b b.template := by
      rw [Property.mergeBuilder]
      cases hstrategy : p.strategy with
      | plain setter hasDefault => simp [hunset, mergeAsk]
      | _ => simp [Property.tracksUnset, Strategy.tracksUnset, hstrategy] at hunset
    rw [List.singleton_sublist]
    exact List.mem_append_left _ (List.mem_flatMap.2 ⟨p, hmem, hask⟩)
  have hsublist : [declare, b.mergeAsk p] <+ b.mergeFromBuilder := by
    rw [mergeFromBuilder, if_pos h, if_pos h]
    refine sublist_joined_cons (sublist_joined_cons (sublist_joined_cons ?_))
    exact ((hask.cons_cons declare).cons _).cons _
  rw [← hdeclare, ← line_mergeAsk spelling p]
  exact hsublist.map _

omit h in
theorem eq_mergeAsk_of_mem {s : Statement} (hs : s ∈ b.mergeFromBuilder)
    (hreferences : s.references ≠ []) : ∃ p ∈ b.required, s = b.mergeAsk p := by
  obtain ⟨code, hcode, hs⟩ := List.mem_flatten.1 hs
  simp only [List.mem_cons, List.not_mem_nil, or_false] at hcode
  rcases hcode with rfl | rfl | rfl | rfl | rfl | rfl
  case inr.inr.inr.inr.inl =>
    obtain ⟨p, hp, hs⟩ := List.mem_flatMap.1 hs
    have hunset : p.tracksUnset = true := by
      by_contra hset
      have hnone : (p.mergeBuilder b b.template).references = [] := by simp [hset]
      exact hreferences (Code.references_eq_nil hnone hs)
    refine ⟨p, List.mem_filter.2 ⟨hp, hunset⟩, ?_⟩
    rw [Property.mergeBuilder] at hs
    cases hstrategy : p.strategy with
    | plain setter hasDefault =>
      simp only [hstrategy, hunset, if_true, List.mem_cons, List.not_mem_nil, or_false] at hs
      rcases hs with rfl | rfl | rfl
      · rfl
      · simp at hreferences
      · simp at hreferences
    | _ => simp [Property.tracksUnset, Strategy.tracksUnset, hstrategy] at hunset
  all_goals exact absurd (Code.references_eq_nil (by simp [builderName]) hs) hreferences

omit h in
theorem lines_resetStatements :
    b.resetStatements.lines spelling = b.resetLines spelling := by
  have hclear : Statement.line spelling "    _unsetProperties.clear();" =
      "    _unsetProperties.clear();\n" := rfl
  rw [resetStatements, resetLines]
  cases b.factory with
  | none =>
    have hfill : (Statement.template "    _unsetProperties.addAll(%s.allOf(%s.class));"
        [Library.enumSet, b.propertyEnum]).line spelling =
        "    _unsetProperties.addAll(" ++ b.allConstants spelling ++ ");\n" := by
      rw [Statement.line_of_chunks rfl, allConstants]
      simp only [String.append_assoc]
      rfl
    simp only [Code.lines, List.map_cons, List.map_nil, hclear, hfill]
  | some factory =>
    have hmake : (Statement.template "    %s %s = %s;"
        [b.generated, .name b.template, b.newBuilder factory]).line spelling =
        "    " ++ spelling.spell b.generated ++ " " ++ b.template ++ " = " ++
          (b.newBuilder factory).render ++ ";\n" := by
      rw [Statement.line_of_chunks rfl]
      simp only [String.append_assoc]
      rfl
    have hfill : (Statement.template "    _unsetProperties.addAll(%s._unsetProperties);"
        [.name b.template]).line spelling =
        "    _unsetProperties.addAll(" ++ b.template ++ "._unsetProperties);\n" := by
      rw [Statement.line_of_chunks rfl, String.append_assoc]
      rfl
    simp only [Code.lines, List.map_cons, List.map_nil, hclear, hmake, hfill]

theorem resetStatements_sublist : b.resetStatements <+ b.clear := by
  rw [resetStatements, clear]
  cases b.factory with
  | none =>
    refine List.Sublist.trans ?_ (infix_joined (.tail _ (.head _))).sublist
    show _ <+ b.clearToNothing
    rw [clearToNothing, if_pos h]
    exact (infix_joined (by simp)).sublist
  | some factory =>
    refine List.Sublist.trans ?_ (infix_joined (.tail _ (.head _))).sublist
    show _ <+ b.clearToTemplate factory
    have hcopies : b.clearsFromTemplate = true := by
      rw [clearsFromTemplate, h, Bool.true_or]
    rw [clearToTemplate, if_pos hcopies, if_pos h]
    exact (sublist_joined_cons (infix_joined (.head _)).sublist).cons_cons _

theorem copyLines_sublist : b.copyLines spelling <+ b.partialType.lines spelling := by
  let declare : Statement := .template "    private final %s<%s> _unsetProperties;"
    [Library.enumSet, b.propertyEnum]
  let copy : Statement := "      this._unsetProperties = builder._unsetProperties.clone();"
  have hlines : Code.lines spelling [declare, copy] = b.copyLines spelling := by
    have hcopy : copy.line spelling =
        "      this._unsetProperties = builder._unsetProperties.clone();\n" := rfl
    simp only [Code.lines, List.map_cons, List.map_nil, copyLines, unsetType, hcopy,
      String.append_assoc]
    rw [Statement.line_of_chunks rfl]
    rfl
  have hcopy : [copy] <+ joined
      [b.nestedConstructor "    %s(%s builder) \x7b" b.partialClass, [copy], ["    \x7d"],
        b.properties.flatMap b.partialGetter,
        b.equals b.partialClass (fun p => p.isNullable || p.tracksUnset) b.partialEqualsResult,
        b.partialHash, toStringMethod b.partialText, ["  \x7d"]] :=
    (infix_joined (by simp)).sublist
  rw [partialType, if_pos h, if_pos h, ← hlines]
  refine List.Sublist.map _ (sublist_joined_cons (sublist_joined_cons ?_))
  exact hcopy.cons_cons declare

theorem sections_sublist :
    [.propertyEnum, .fields, .build, .mergeFromBuilder, .clear, .partialType] <+ b.sections := by
  have hall : [.propertyEnum, .fields, .build, .mergeFromBuilder, .clear, .partialType] <+
      Section.all := by
    decide
  have happlies : [.propertyEnum, .fields, .build, .mergeFromBuilder, .clear,
      .partialType].filter (Section.appliesTo b) =
      [.propertyEnum, .fields, .build, .mergeFromBuilder, .clear, .partialType] := by
    simp [Section.appliesTo, h]
  rw [← happlies]
  exact hall.filter _

theorem tracksUnset : b.TracksUnset spelling (·.code generator level b) := by
  constructor
  case sections => exact sections_sublist h
  case field => exact fieldLines_infix spelling h level
  case check => exact checkLines_infix spelling h
  case merge => exact fun p hp => merge_sublist spelling h hp
  case merge_only =>
    intro s hs hreferences
    obtain ⟨p, hp, rfl⟩ := eq_mergeAsk_of_mem hs hreferences
    exact ⟨p, hp, line_mergeAsk spelling p⟩
  case reset =>
    rw [← lines_resetStatements]
    exact (resetStatements_sublist h).map _
  case copy => exact copyLines_sublist spelling h

omit h

/-! ## Units -/

/-- Whatever unit a class is written into, its sections agree about the enum, and about the field
with what is unset: all of it is there if a property is required, and nothing if none is. -/
theorem unset_tracking_in_step (generator : String) (b : Blueprint) (u : SourceUnit) :
    match b.write generator u with
    | .error failure =>
      ∃ cause, u.error = some cause ∧ failure = ⟨b.target.qualifiedName, .header, cause⟩
    | .ok u' =>
      let code (part : Section) : Code := part.code generator u.level b
      let text := String.join (b.sections.flatMap fun part => (code part).lines u'.spelling)
      u'.body = u.body ++ text ∧
        b.EnumInStep u'.spelling code ∧
        (b.required ≠ [] → b.TracksUnset u'.spelling code) ∧
        (b.required = [] → (∀ name ∈ b.texts generator, ¬Occurs unsetField name) →
          ¬Occurs unsetField text ∧
            ∀ part ∈ b.sections, ∀ s ∈ code part, Shape.mentionsEnum s.shape = false) := by
  cases herror : u.error with
  | some cause =>
    rw [write_of_error_eq_some herror]
    exact ⟨cause, rfl, rfl⟩
  | none =>
    have hreserved : (u.reserve b.memberClasses).error = none := herror
    rw [write_of_error_eq_none herror,
      SourceUnit.append_eq hreserved (b.fits_classCode generator u.level)]
    dsimp only
    generalize (u.reserve b.memberClasses).spelling.mentionAll
      (b.classCode generator u.level).classes = spelling
    have htext : (b.classCode generator u.level).text spelling =
        String.join (b.sections.flatMap fun part =>
          (part.code generator u.level b).lines spelling) := by
      rw [Code.text_eq_join, classCode, Code.lines, List.map_flatMap]
      rfl
    refine ⟨congrArg (u.body ++ ·) htext, b.enumInStep spelling, ?_, ?_⟩
    · exact fun hrequired => tracksUnset spelling (b.hasRequired_iff.2 hrequired)
    · intro hrequired hnames
      obtain ⟨hsilent, henum⟩ := b.silent_code spelling u.level hrequired hnames
      refine ⟨htext ▸ hsilent, fun part hpart s hs => henum s ?_⟩
      exact List.mem_flatMap.2 ⟨part, hpart, hs⟩

/-- The texts of a class with a default for its only property. -/
example :
    let target : ClassName := .topLevel "com.example" "Person"
    let age : Property := .ofGetter "age" "getAge" Primitive.int true
    let b : Blueprint :=
      ⟨target, false, defaultBuilder target, none, defaultGenerated target, [age], false, false,
        false, by decide, by decide, by decide⟩
    b.required = [] ∧ ∀ name ∈ b.texts defaultGenerator, ¬Occurs unsetField name := by
  decide +kernel

end Blueprint

end ValueBuilder
