import ValueBuilder.Proofs.Builder.Clearing
import ValueBuilder.Proofs.Builder.FreshNames
import ValueBuilder.Proofs.Builder.UnsetTracking

/-!
# The template of `clear`

Where generated code can make a fresh builder, `clear` copies from it.  The fresh builder is kept in
a local variable, the template, which the method declares only if it needs one.

* `Property.text_clear_eq_iff`: the flag of a strategy says whether the text that clears a property
  depends on the name of the template.
* `Blueprint.mem_clear_cases` lists the statements of the method, and `Blueprint.uses_templateLine`
  and the lemmas around it say what they declare and name.
* `clear_declares_template_iff_refers` puts them together: the declaration is there exactly if some
  statement refers to it, and it stands before all of them.
-/

namespace ValueBuilder

open Java
open scoped List

/-! ## One property -/

namespace Property

open Use

variable (p : Property)

theorem uses_clear (template : String) :
    (p.clear template).uses =
      if p.strategy.clearsFromTemplate then [bare p.name.toList, bare template.toList]
      else [bare p.name.toList] := by
  unfold clear
  cases p.strategy <;>
    simp (disch := exact id rfl) only [Code.uses_cons, Code.uses_nil, Statement.uses_of_opening] <;>
    rfl

theorem text_clear (spelling : Spelling) (template : String) :
    Code.text spelling (p.clear template) =
      if p.strategy.clearsFromTemplate then
        "    " ++ p.name ++ " = " ++ template ++ "." ++ p.name ++ ";\n"
      else "    " ++ p.name ++ ".clear();\n" := by
  have hcopy : (Statement.template "    %1$s = %2$s.%1$s;" [.name p.name, .name template]).line
      spelling = "    " ++ p.name ++ " = " ++ template ++ "." ++ p.name ++ ";\n" := by
    rw [Statement.line_of_chunks rfl]
    simp only [String.append_assoc]
    rfl
  have hempty : (Statement.template "    %s.clear();" [.name p.name]).line spelling =
      "    " ++ p.name ++ ".clear();\n" := by
    rw [Statement.line_of_chunks rfl, String.append_assoc]
    rfl
  unfold clear
  cases p.strategy <;>
    simp only [Code.text_cons, Code.text_nil, String.append_empty, hcopy, hempty,
      Strategy.clearsFromTemplate, if_true, Bool.false_eq_true, if_false]

/-- Two templates make a difference to the text exactly if the strategy copies from one. -/
theorem text_clear_eq_iff (spelling : Spelling) (template other : String) :
    Code.text spelling (p.clear template) = Code.text spelling (p.clear other) ↔
      template = other ∨ p.strategy.clearsFromTemplate = false := by
  rw [text_clear, text_clear]
  cases p.strategy.clearsFromTemplate with
  | true =>
    simp only [if_true, String.append_left_inj, String.append_right_inj, Bool.true_eq_false,
      or_false]
  | false => simp

end Property

/-! ## The statements of the method -/

namespace Statement

/-- Whether a statement declares a variable of a name. -/
def Declares (s : Statement) (name : String) : Prop :=
  Use.declared name.toList ∈ s.uses

/-- Whether a name stands alone in a statement, so that it is that of a variable or a field. -/
def RefersTo (s : Statement) (name : String) : Prop :=
  Use.bare name.toList ∈ s.uses

end Statement

namespace Blueprint

open Use

variable (b : Blueprint) (factory : Factory)

/-- What declares the template. -/
def templateLine : Statement :=
  .template "    %s %s = %s;" [b.generated, .name b.template, b.newBuilder factory]

/-- What empties the set of unset properties. -/
def emptyUnset : Statement :=
  "    _unsetProperties.clear();"

/-- What fills it with the properties that are unset on the template. -/
def refillUnset : Statement :=
  .template "    _unsetProperties.addAll(%s._unsetProperties);" [.name b.template]

/-- The head of the method. -/
def clearHead : Code :=
  ["", "  /**", "   * Resets the state of this builder.", "   */",
    .template "  public %s clear() \x7b" [b.builder]]

/-- The statements of the method behind the declaration of the template. -/
def clearBody : Code :=
  joined
    [b.properties.flatMap (·.clear b.template),
      if b.hasRequired then [emptyUnset, b.refillUnset] else [],
      [b.returnBuilder, "  \x7d"]]

theorem uses_templateLine : (b.templateLine factory).uses = [declared b.template.toList] := by
  cases factory <;>
    · rw [Statement.uses_of_opening rfl]
      rfl

theorem uses_emptyUnset : emptyUnset.uses = [bare "_unsetProperties".toList] := by
  rw [Statement.uses_of_opening rfl]
  rfl

theorem uses_refillUnset :
    b.refillUnset.uses = [bare "_unsetProperties".toList, bare b.template.toList] := by
  rw [Statement.uses_of_opening rfl]
  rfl

theorem uses_of_mem_clearHead {s : Statement} (hs : s ∈ b.clearHead) : s.uses = [] := by
  have hhead : b.clearHead.uses = [] := by
    simp (disch := exact id rfl) only [clearHead, Code.uses_cons, Code.uses_nil,
      Statement.uses_of_opening]
    rfl
  exact List.flatMap_eq_nil_iff.1 hhead s hs

theorem uses_of_mem_clearEnd {s : Statement} (hs : s ∈ ([b.returnBuilder, "  \x7d"] : Code)) :
    s.uses = [] := by
  have hend : Code.uses [b.returnBuilder, "  \x7d"] = [] := by
    simp (disch := exact id rfl) only [returnBuilder, Code.uses_cons, Code.uses_nil,
      Statement.uses_of_opening]
    rfl
  exact List.flatMap_eq_nil_iff.1 hend s hs

variable {b factory}

theorem clear_eq (hfactory : b.factory = some factory) :
    b.clear =
      b.clearHead ++ (if b.clearsFromTemplate then [b.templateLine factory] else []) ++
        b.clearBody := by
  unfold clear
  rw [hfactory]
  simp only [joined, clearToTemplate, clearBody, List.flatten_cons, List.flatten_nil,
    List.append_nil, List.append_assoc]
  rfl

theorem mem_clearBody {s : Statement} :
    s ∈ b.clearBody ↔
      (∃ p ∈ b.properties, s ∈ p.clear b.template) ∨
        (b.hasRequired = true ∧ (s = emptyUnset ∨ s = b.refillUnset)) ∨
          s ∈ ([b.returnBuilder, "  \x7d"] : Code) := by
  unfold clearBody
  simp only [joined, List.flatten_cons, List.flatten_nil, List.append_nil, List.mem_append,
    List.mem_flatMap]
  cases b.hasRequired <;> simp

/-- The statement of a property names the property, and the template if it copies from it. -/
theorem uses_of_mem_property {p : Property} {template : String} {s : Statement}
    (hs : s ∈ p.clear template) {use : Use} (huse : use ∈ s.uses) :
    use = bare p.name.toList ∨
      p.strategy.clearsFromTemplate = true ∧ use = bare template.toList := by
  have hmem : use ∈ (p.clear template).uses := List.mem_flatMap.2 ⟨s, hs, huse⟩
  rw [p.uses_clear] at hmem
  split at hmem
  · next hcopies =>
    rcases List.mem_pair.1 hmem with hname | htemplate
    · exact .inl hname
    · exact .inr ⟨hcopies, htemplate⟩
  · exact .inl (List.mem_singleton.1 hmem)

/-- All that a statement behind the declaration can name. -/
theorem uses_of_mem_clearBody {s : Statement} (hs : s ∈ b.clearBody) {use : Use}
    (huse : use ∈ s.uses) :
    (∃ p ∈ b.properties, use = bare p.name.toList) ∨
      (b.hasRequired = true ∧ use = bare "_unsetProperties".toList) ∨
        (b.clearsFromTemplate = true ∧ use = bare b.template.toList) := by
  rcases mem_clearBody.1 hs with ⟨p, hp, hs⟩ | ⟨hrequired, hs⟩ | hs
  · rcases uses_of_mem_property hs huse with hname | ⟨hcopies, htemplate⟩
    · exact .inl ⟨p, hp, hname⟩
    · have hclears : b.clearsFromTemplate = true := by
        unfold clearsFromTemplate
        rw [Bool.or_eq_true, List.any_eq_true]
        exact .inr ⟨p, hp, hcopies⟩
      exact .inr (.inr ⟨hclears, htemplate⟩)
  · have hclears : b.clearsFromTemplate = true := by
      unfold clearsFromTemplate
      rw [hrequired, Bool.true_or]
    rcases hs with rfl | rfl
    · rw [uses_emptyUnset] at huse
      exact .inr (.inl ⟨hrequired, List.mem_singleton.1 huse⟩)
    · rw [uses_refillUnset] at huse
      rcases List.mem_pair.1 huse with hfield | htemplate
      · exact .inr (.inl ⟨hrequired, hfield⟩)
      · exact .inr (.inr ⟨hclears, htemplate⟩)
  · rw [b.uses_of_mem_clearEnd hs] at huse
    cases huse

/-! ## Need and use -/

/-- The template has neither the name of a property nor that of the set of unset ones. -/
theorem template_ne_field {name : String}
    (h : name = "_unsetProperties" ∨ ∃ p ∈ b.properties, name = p.name) : name ≠ b.template := by
  rcases h with rfl | ⟨p, hp, rfl⟩
  · intro hsame
    have hstem : stem "_unsetProperties" = stem "template" := by
      rw [hsame]
      exact b.stem_localName "template"
    exact absurd hstem (by decide)
  · exact b.localName_ne "template" hp

/-- Where the template is named, it is needed, and the statement stands behind its declaration. -/
theorem needed_of_refersTo (hfactory : b.factory = some factory) {s : Statement}
    (hs : s ∈ b.clear) (hrefers : s.RefersTo b.template) :
    b.clearsFromTemplate = true ∧ s ∉ b.clearHead ∧ s ≠ b.templateLine factory := by
  have hhead : s ∉ b.clearHead := by
    intro hs
    rw [Statement.RefersTo, b.uses_of_mem_clearHead hs] at hrefers
    cases hrefers
  have hline : s ≠ b.templateLine factory := by
    rintro rfl
    rw [Statement.RefersTo, uses_templateLine] at hrefers
    cases List.mem_singleton.1 hrefers
  refine ⟨?_, hhead, hline⟩
  have hbody : s ∈ b.clearBody := by
    rw [clear_eq hfactory, List.mem_append, List.mem_append] at hs
    rcases hs with (hs | hs) | hs
    · exact absurd hs hhead
    · split at hs
      · exact absurd (List.mem_singleton.1 hs) hline
      · cases hs
    · exact hs
  rcases uses_of_mem_clearBody hbody hrefers with ⟨p, hp, hname⟩ | ⟨-, hfield⟩ | ⟨hclears, -⟩
  · have hsame : b.template = p.name := String.toList_inj.1 (Use.bare.inj hname)
    exact absurd hsame.symm (template_ne_field (.inr ⟨p, hp, rfl⟩))
  · have hsame : b.template = "_unsetProperties" := String.toList_inj.1 (Use.bare.inj hfield)
    exact absurd hsame.symm (template_ne_field (.inl rfl))
  · exact hclears

/-- Where the template is needed, some statement names it. -/
theorem exists_refersTo_of_clears (hfactory : b.factory = some factory)
    (hclears : b.clearsFromTemplate = true) : ∃ s ∈ b.clear, s.RefersTo b.template := by
  have hbody : ∃ s ∈ b.clearBody, s.RefersTo b.template := by
    unfold clearsFromTemplate at hclears
    rw [Bool.or_eq_true, List.any_eq_true] at hclears
    rcases hclears with hrequired | ⟨p, hp, hcopies⟩
    · refine ⟨b.refillUnset, mem_clearBody.2 (.inr (.inl ⟨hrequired, .inr rfl⟩)), ?_⟩
      rw [Statement.RefersTo, uses_refillUnset]
      exact .tail _ (.head _)
    · have huses : bare b.template.toList ∈ (p.clear b.template).uses := by
        rw [p.uses_clear, if_pos hcopies]
        exact .tail _ (.head _)
      obtain ⟨s, hs, hrefers⟩ := List.mem_flatMap.1 huses
      exact ⟨s, mem_clearBody.2 (.inl ⟨p, hp, hs⟩), hrefers⟩
  obtain ⟨s, hs, hrefers⟩ := hbody
  refine ⟨s, ?_, hrefers⟩
  rw [clear_eq hfactory]
  exact List.mem_append_right _ hs

theorem exists_declares_iff (hfactory : b.factory = some factory) :
    (∃ s ∈ b.clear, s.Declares b.template) ↔ b.clearsFromTemplate = true := by
  have hlocals : b.template.toList ∈ b.clear.locals ↔ b.clearsFromTemplate = true := by
    rw [locals_clear, hfactory]
    cases b.clearsFromTemplate <;> simp
  rw [← hlocals, Code.mem_locals]
  exact List.mem_flatMap.symm

/-- An element behind the first part of a list that is not the one that follows has it before it. -/
theorem mem_of_append_cons_eq {α : Type} {head before body behind : List α} {d s : α}
    (h : before ++ s :: behind = head ++ d :: body) (hs : s ∉ head) (hne : s ≠ d) :
    d ∈ before := by
  induction head generalizing before with
  | nil =>
    cases before with
    | nil => exact absurd (List.cons.inj h).1 hne
    | cons x before =>
      rw [(List.cons.inj h).1]
      exact List.mem_cons_self
  | cons x head ih =>
    rw [List.mem_cons, not_or] at hs
    cases before with
    | nil => exact absurd (List.cons.inj h).1 hs.1
    | cons y before => exact List.mem_cons_of_mem y (ih (List.cons.inj h).2 hs.2)

/-- The declaration stands before all statements that name the template. -/
theorem declared_before_of_refersTo (hfactory : b.factory = some factory) {before behind : Code}
    {s : Statement} (hclear : b.clear = before ++ s :: behind) (hrefers : s.RefersTo b.template) :
    ∃ d ∈ before, d.Declares b.template := by
  have hs : s ∈ b.clear := by
    rw [hclear]
    exact List.mem_append_right _ List.mem_cons_self
  obtain ⟨hclears, hhead, hline⟩ := needed_of_refersTo hfactory hs hrefers
  rw [clear_eq hfactory, if_pos hclears, List.append_assoc] at hclear
  refine ⟨b.templateLine factory, mem_of_append_cons_eq hclear.symm hhead hline, ?_⟩
  rw [Statement.Declares, uses_templateLine]
  exact List.mem_singleton_self _

/-- The method declares nothing but the template, and names nothing but it and the fields. -/
theorem names_of_mem_clear (hfactory : b.factory = some factory) {s : Statement}
    (hs : s ∈ b.clear) (name : String) :
    (s.Declares name → name = b.template) ∧
      (s.RefersTo name → name = b.template ∨ (b.hasRequired = true ∧ name = "_unsetProperties") ∨
        ∃ p ∈ b.properties, name = p.name) := by
  unfold Statement.Declares Statement.RefersTo
  rw [clear_eq hfactory, List.mem_append, List.mem_append] at hs
  rcases hs with (hs | hs) | hs
  · rw [b.uses_of_mem_clearHead hs]
    simp
  · split at hs
    · rw [List.mem_singleton.1 hs, uses_templateLine]
      simp [String.toList_inj]
    · cases hs
  · constructor
    · intro huse
      rcases uses_of_mem_clearBody hs huse with ⟨p, hp, hname⟩ | ⟨-, hname⟩ | ⟨-, hname⟩
      all_goals cases hname
    · intro huse
      rcases uses_of_mem_clearBody hs huse with ⟨p, hp, hname⟩ | ⟨hrequired, hname⟩ | ⟨-, hname⟩
      · exact .inr (.inr ⟨p, hp, String.toList_inj.1 (Use.bare.inj hname)⟩)
      · exact .inr (.inl ⟨hrequired, String.toList_inj.1 (Use.bare.inj hname)⟩)
      · exact .inl (String.toList_inj.1 (Use.bare.inj hname))

end Blueprint

/-- With a factory, `clear` declares the template exactly if one of its statements refers to it, and
the declaration stands before all of these.  No other name stands in the method but those of fields.
The text that clears a property changes with the name of the template exactly if the strategy says
that it copies from one.  If a property is required, the template is declared, and the set of unset
properties is refilled from it under the same name. -/
theorem clear_declares_template_iff_refers (b : Blueprint) (factory : Factory)
    (hfactory : b.factory = some factory) :
    ((∃ s ∈ b.clear, s.Declares b.template) ↔ ∃ s ∈ b.clear, s.RefersTo b.template) ∧
    (∀ before s behind, b.clear = before ++ s :: behind → s.RefersTo b.template →
      ∃ d ∈ before, d.Declares b.template) ∧
    (∀ s ∈ b.clear, ∀ name, (s.Declares name → name = b.template) ∧
      (s.RefersTo name → name = b.template ∨ (b.hasRequired = true ∧ name = "_unsetProperties") ∨
        ∃ p ∈ b.properties, name = p.name)) ∧
    (∀ (p : Property) (spelling : Spelling) (template other : String),
      Code.text spelling (p.clear template) = Code.text spelling (p.clear other) ↔
        template = other ∨ p.strategy.clearsFromTemplate = false) ∧
    ∀ p ∈ b.properties, p.tracksUnset = true → ∀ spelling : Spelling,
      ["    " ++ spelling.spell b.generated ++ " " ++ b.template ++ " = " ++
          (b.newBuilder factory).render ++ ";\n",
        "    _unsetProperties.clear();\n",
        "    _unsetProperties.addAll(" ++ b.template ++ "._unsetProperties);\n"] <+
        b.clear.lines spelling := by
  refine ⟨?declared, ?before, ?names, ?texts, ?refilled⟩
  case declared =>
    rw [Blueprint.exists_declares_iff hfactory]
    constructor
    · exact Blueprint.exists_refersTo_of_clears hfactory
    · rintro ⟨s, hs, hrefers⟩
      exact (Blueprint.needed_of_refersTo hfactory hs hrefers).1
  case before => exact fun _ _ _ => Blueprint.declared_before_of_refersTo hfactory
  case names => exact fun s hs name => Blueprint.names_of_mem_clear hfactory hs name
  case texts => exact fun p => p.text_clear_eq_iff
  case refilled =>
    intro p hp htracked spelling
    have hlines : b.resetStatements.lines spelling <+ b.clear.lines spelling :=
      (Blueprint.resetStatements_sublist
        (Blueprint.hasRequired_of_tracksUnset hp htracked)).map _
    rw [Blueprint.lines_resetStatements, Blueprint.resetLines, hfactory] at hlines
    exact hlines

/-- A required property that has the preferred name of the template. -/
theorem clear_declares_template_iff_refers_renamed :
    let target : ClassName := .topLevel "com.example" "Person"
    let text : JavaType := .declared (.topLevel "java.lang" "String") []
    let template : Property := .ofGetter "template" "template" text false
    let b : Blueprint :=
      ⟨target, false, defaultBuilder target, some .constructor, defaultGenerated target, [template],
        false, false, false, by decide, by decide, by decide⟩
    b.factory = some .constructor ∧ (∃ s ∈ b.clear, s.Declares "_template") ∧
      ∀ spelling : Spelling,
        ["    " ++ spelling.spell b.generated ++ " _template = new Person.Builder();\n",
          "    _unsetProperties.clear();\n",
          "    _unsetProperties.addAll(_template._unsetProperties);\n"] <+
          b.clear.lines spelling := by
  intro target text template b
  have hname : b.template = "_template" := by
    show Blueprint.freshName ["template"] "template" = "_template"
    rw [Blueprint.freshName, if_pos (by decide), Blueprint.freshName, if_neg (by decide)]
    rfl
  have hnew : (b.newBuilder .constructor).render = "new Person.Builder()" := by decide
  have hneeds : b.clearsFromTemplate = true := by decide
  obtain ⟨hdeclared, -, -, -, hrefilled⟩ := clear_declares_template_iff_refers b .constructor rfl
  rw [hname] at hdeclared
  have hrefers : ∃ s ∈ b.clear, s.RefersTo "_template" :=
    hname ▸ Blueprint.exists_refersTo_of_clears rfl hneeds
  refine ⟨rfl, hdeclared.2 hrefers, fun spelling => ?_⟩
  have hlines := hrefilled template (.head _) (by decide) spelling
  rw [hname, hnew] at hlines
  simp only [String.append_assoc] at hlines ⊢
  exact hlines

end ValueBuilder
