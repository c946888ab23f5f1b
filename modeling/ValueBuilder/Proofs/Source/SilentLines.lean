import ValueBuilder.Proofs.Source.Lines
import ValueBuilder.Proofs.Source.Templates
import ValueBuilder.Proofs.Text.Silence

/-!
# Silent lines

A line is silent if the text of the generator's own has the shape of a silent line, and if no name
that fills a gap has a trace of the field.  How a unit spells a class does not matter for that, since
each spelling is part of the qualified name.

* `ClassName.IsSilent` and `JavaType.IsSilent` are about names; `JavaType.isSilent_of_display` gets
  them from the text of a type.
* `Statement.IsSilent` is the check of a line, and `Code.silent_text` what it is good for.
-/

namespace ValueBuilder

open Java

/-! ## Classes -/

theorem infix_intercalate {separator name : String} {names : List String} (h : name ∈ names) :
    name.toList <:+: (separator.intercalate names).toList := by
  obtain ⟨before, behind, rfl⟩ := List.append_of_mem h
  have hbehind : name.toList <+: (separator.intercalate (name :: behind)).toList := by
    cases behind with
    | nil => simp
    | cons next behind =>
      rw [String.intercalate_cons_cons, String.toList_append, String.toList_append,
        List.append_assoc]
      exact List.prefix_append _ _
  cases before with
  | nil => exact hbehind.isInfix
  | cons first before =>
    rw [String.intercalate_append_of_ne_nil (by simp) (by simp), String.toList_append]
    exact hbehind.isInfix.trans (List.suffix_append _ _).isInfix

namespace Java.ClassName

variable {c : ClassName}

/-- Whether the name of a class has no trace of the field. -/
def IsSilent (c : ClassName) : Prop :=
  Silent c.qualifiedName.toList

theorem infix_qualifiedName (c : ClassName) : c.nestedPath.toList <:+: c.qualifiedName.toList := by
  rw [qualifiedName]
  split
  · exact List.infix_rfl
  · rw [String.toList_append]
    exact (List.suffix_append _ _).isInfix

theorem IsSilent.nestedPath (h : c.IsSilent) : Silent c.nestedPath.toList :=
  h.of_infix c.infix_qualifiedName

theorem IsSilent.simpleName (h : c.IsSilent) : Silent c.simpleName.toList :=
  h.nestedPath.of_infix (infix_intercalate List.getLastD_mem_cons)

/-- Every spelling of a class is part of its qualified name. -/
theorem IsSilent.spell (h : c.IsSilent) (spelling : Spelling) :
    Silent (spelling.spell c).toList := by
  cases spelling with
  | bare => exact h.nestedPath
  | importing table =>
    rw [Spelling.spell, NameTable.spell]
    split
    · exact h.nestedPath
    · exact h

theorem nestedPath_nested (c : ClassName) (name : String) :
    (c.nested name).nestedPath = c.nestedPath ++ "." ++ name := by
  rw [ClassName.nestedPath, ClassName.nestedPath]
  exact String.intercalate_append_of_ne_nil (l := c.names) (m := [name]) (by simp [names])
    (by simp)

theorem qualifiedName_nested (c : ClassName) (name : String) :
    (c.nested name).qualifiedName = c.qualifiedName ++ "." ++ name := by
  rw [qualifiedName, qualifiedName, nestedPath_nested]
  show (if c.package.isEmpty then _ else c.package ++ "." ++ _) = _
  split
  · rfl
  · simp [String.append_assoc]

/-- A member class is silent if the class around it and its own name are. -/
theorem IsSilent.nested (h : c.IsSilent) {name : String} (hname : Silent name.toList) :
    (c.nested name).IsSilent := by
  rw [IsSilent, qualifiedName_nested, String.toList_append, String.toList_append,
    List.append_assoc]
  exact Silent.append h (hname.cons fun h => absurd h (by decide)) rfl

/-- A top-level class without an underscore in its package or its name is silent. -/
theorem isSilent_topLevel {package name : String} (hpackage : '_' ∉ package.toList)
    (hname : '_' ∉ name.toList) : (topLevel package name).IsSilent := by
  have hqualified : '_' ∉ (topLevel package name).qualifiedName.toList := by
    rw [qualifiedName]
    split <;> simp [topLevel, ClassName.nestedPath, names, hpackage, hname]
  have hsilent := Silent.append_of_notMem hqualified Silent.nil
  rwa [List.append_nil] at hsilent

end Java.ClassName

/-! ## Types -/

namespace Java.JavaType

/-- Whether the classes of a type are silent. -/
def IsSilent (t : JavaType) : Prop :=
  ∀ c ∈ t.classes, c.IsSilent

variable {spell : ClassName → String}

mutual

theorem silent_render (t : JavaType) (h : ∀ c ∈ t.classes, Silent (spell c).toList) :
    Silent (t.render spell).toList := by
  match t with
  | .primitive p =>
    rw [render]
    cases p <;> decide
  | .unbounded =>
    rw [render]
    decide
  | .declared c args =>
    obtain ⟨hc, hargs⟩ := List.forall_mem_cons.1 h
    obtain ⟨hargs, hhead⟩ := silent_renderArgs args hargs
    rw [render, String.toList_append]
    exact hc.append hargs hhead
  | .array component =>
    rw [render, String.toList_append]
    exact (silent_render component h).append (by decide) (by decide)
  | .extending bound =>
    rw [render, String.toList_append]
    exact Silent.append_of_notMem (by decide) (silent_render bound h)
  | .superOf bound =>
    rw [render, String.toList_append]
    exact Silent.append_of_notMem (by decide) (silent_render bound h)

theorem silent_renderArgs (args : List JavaType)
    (h : ∀ c ∈ classesOfArgs args, Silent (spell c).toList) :
    Silent (renderArgs spell args).toList ∧
      startsApart (renderArgs spell args).toList = true := by
  match args with
  | [] =>
    rw [renderArgs]
    exact ⟨Silent.nil, rfl⟩
  | arg :: rest =>
    obtain ⟨harg, hrest⟩ := List.forall_mem_append.1 h
    obtain ⟨hrest, hhead⟩ := silent_renderMore rest hrest
    rw [renderArgs, String.append_assoc, String.toList_append, String.toList_append]
    exact ⟨Silent.append_of_notMem (by decide) ((silent_render arg harg).append hrest hhead), rfl⟩

theorem silent_renderMore (args : List JavaType)
    (h : ∀ c ∈ classesOfArgs args, Silent (spell c).toList) :
    Silent (renderMore spell args).toList ∧
      startsApart (renderMore spell args).toList = true := by
  match args with
  | [] =>
    rw [renderMore]
    exact ⟨by decide, by decide⟩
  | arg :: rest =>
    obtain ⟨harg, hrest⟩ := List.forall_mem_append.1 h
    obtain ⟨hrest, hhead⟩ := silent_renderMore rest hrest
    rw [renderMore, String.append_assoc, String.toList_append, String.toList_append]
    exact ⟨Silent.append_of_notMem (by decide) ((silent_render arg harg).append hrest hhead), rfl⟩

end

mutual

/-- The text of a type has the texts of its classes. -/
theorem infix_render (t : JavaType) {c : ClassName} (h : c ∈ t.classes) :
    (spell c).toList <:+: (t.render spell).toList := by
  match t with
  | .declared d args =>
    rw [render, String.toList_append]
    rcases List.mem_cons.1 h with rfl | h
    · exact (List.prefix_append _ _).isInfix
    · exact (infix_renderArgs args h).trans (List.suffix_append _ _).isInfix
  | .array component =>
    rw [render, String.toList_append]
    exact (infix_render component h).trans (List.prefix_append _ _).isInfix
  | .extending bound | .superOf bound =>
    rw [render, String.toList_append]
    exact (infix_render bound h).trans (List.suffix_append _ _).isInfix

theorem infix_renderArgs (args : List JavaType) {c : ClassName} (h : c ∈ classesOfArgs args) :
    (spell c).toList <:+: (renderArgs spell args).toList := by
  match args with
  | arg :: rest =>
    rw [renderArgs, String.append_assoc, String.toList_append, String.toList_append]
    refine List.IsInfix.trans ?_ (List.suffix_append _ _).isInfix
    rcases List.mem_append.1 h with h | h
    · exact (infix_render arg h).trans (List.prefix_append _ _).isInfix
    · exact (infix_renderMore rest h).trans (List.suffix_append _ _).isInfix

theorem infix_renderMore (args : List JavaType) {c : ClassName} (h : c ∈ classesOfArgs args) :
    (spell c).toList <:+: (renderMore spell args).toList := by
  match args with
  | arg :: rest =>
    rw [renderMore, String.append_assoc, String.toList_append, String.toList_append]
    refine List.IsInfix.trans ?_ (List.suffix_append _ _).isInfix
    rcases List.mem_append.1 h with h | h
    · exact (infix_render arg h).trans (List.prefix_append _ _).isInfix
    · exact (infix_renderMore rest h).trans (List.suffix_append _ _).isInfix

end

@[simp]
theorem isSilent_declared {c : ClassName} {arg : JavaType} :
    (declared c [arg]).IsSilent ↔ c.IsSilent ∧ arg.IsSilent := by
  simp [IsSilent, classes, classesOfArgs]

@[simp]
theorem isSilent_extending {bound : JavaType} : (extending bound).IsSilent ↔ bound.IsSilent :=
  Iff.rfl

/-- The classes of a type with a silent text are silent. -/
theorem isSilent_of_display {t : JavaType} (h : Silent t.display.toList) : t.IsSilent :=
  fun _ hc => h.of_infix (infix_render t hc)

end Java.JavaType

/-! ## Arguments -/

namespace Piece

/-- Whether an argument has no trace of the field, however the unit spells classes. -/
def IsSilent : Piece → Prop
  | .word w => Silent w.render.toList
  | .cls c => c.IsSilent
  | .type t => t.IsSilent

@[simp]
theorem isSilent_text {s : String} : (Piece.word (.text s)).IsSilent ↔ Silent s.toList :=
  Iff.rfl

@[simp]
theorem isSilent_name {s : String} : (Piece.name s).IsSilent ↔ Silent s.toList :=
  Iff.rfl

@[simp]
theorem isSilent_cls {c : ClassName} : (Piece.cls c).IsSilent ↔ c.IsSilent :=
  Iff.rfl

@[simp]
theorem isSilent_type {t : JavaType} : (Piece.type t).IsSilent ↔ t.IsSilent :=
  Iff.rfl

theorem IsSilent.render {piece : Piece} (h : piece.IsSilent) (spelling : Spelling) :
    Silent (piece.render spelling).toList := by
  cases piece with
  | word w => exact h
  | cls c => exact h.spell spelling
  | type t => exact t.silent_render fun c hc => (h c hc).spell spelling

end Piece

/-! ## Lines -/

/-- The shape of the parts of a template. -/
def Template.shape : List Template.Part → Shape
  | [] | .malformed _ :: _ => []
  | .literal c :: parts => some c :: shape parts
  | .argument _ :: parts => none :: shape parts

/-- The shape of a word: only text of the generator's own is known. -/
def Word.shape : Word → Shape
  | .text s => s.toList.map some
  | _ => [none]

/-- What fills the gap that a word is. -/
def Word.fillings : Word → List Piece
  | .text _ => []
  | w => [.word w]

namespace Shape

/-- Whether the word `enum` stands among the known characters of a shape. -/
def mentionsEnum : Shape → Bool
  | [] => false
  | c :: shape => ("enum".toList.map some).isPrefixOf (c :: shape) || mentionsEnum shape

/-- Whether a line of the shape neither names the field nor mentions an enum of its own. -/
def check (shape : Shape) : Bool :=
  isQuiet shape && !mentionsEnum shape

/-- The shape of characters, either of a template or of a text that is taken as it is. -/
def ofChars (isTemplate : Bool) (cs : List Char) : Shape :=
  if isTemplate then Template.shape (Template.partsFrom 0 0 .none cs) else cs.map some

/-- Whether a text passes the check. -/
def passes (isTemplate : Bool) (text : String) : Bool :=
  check (ofChars isTemplate text.toList)

/-- A text whose characters are known passes if they do.  The characters of a literal are found by
unification. -/
theorem passes_ofList {isTemplate : Bool} {text : String} {cs : List Char}
    (hchars : text = String.ofList cs) (hcheck : check (ofChars isTemplate cs) = true) :
    passes isTemplate text = true := by
  rw [passes, hchars, String.toList_ofList]
  exact hcheck

/-- Rewrites by a check of the text, which is left to a discharger. -/
theorem passes_of_check {isTemplate : Bool} {text : String} (h : passes isTemplate text = true) :
    passes isTemplate text = true :=
  h

end Shape

namespace Statement

/-- The shape of a statement's line. -/
def shape : Statement → Shape
  | .template text _ => Template.shape (Template.parts text)
  | .verbatim words => words.flatMap Word.shape

/-- What fills the gaps of that shape. -/
def fillings : Statement → List Piece
  | .template _ args => args
  | .verbatim words => words.flatMap Word.fillings

/-- Whether the line of a statement passes the check, and what fills it is silent. -/
structure IsSilent (s : Statement) : Prop where
  check : Shape.check s.shape = true
  fillings : ∀ piece ∈ s.fillings, piece.IsSilent

variable {s : Statement}

theorem toList_renderPieces_cons (spelling : Spelling) (piece : Piece) (pieces : List Piece) :
    (renderPieces spelling (piece :: pieces)).toList =
      (piece.render spelling).toList ++ (renderPieces spelling pieces).toList :=
  String.toList_append

/-- Arguments fill the gaps of a template that they fit. -/
theorem fills_expandParts {args : List Piece} {parts : List Template.Part} (spelling : Spelling)
    (hfits : parts.all (Template.Part.fits args.length) = true)
    (hargs : ∀ piece ∈ args, piece.IsSilent) :
    Fills (Template.shape parts)
      (renderPieces spelling (Template.expandParts args parts).pieces).toList := by
  induction parts with
  | nil => exact .done
  | cons part parts ih =>
    rw [List.all_cons, Bool.and_eq_true] at hfits
    obtain ⟨hpart, hparts⟩ := hfits
    cases part with
    | malformed position => cases hpart
    | literal c =>
      have hliteral : (Piece.word (.text (String.singleton c))).render spelling =
          String.singleton c := rfl
      rw [Template.expandParts, Template.Expansion.cons, toList_renderPieces_cons, hliteral,
        String.toList_singleton]
      exact (ih hparts).char c
    | argument index =>
      obtain ⟨piece, hpiece⟩ : ∃ piece, args[index - 1]? = some piece :=
        ⟨_, List.getElem?_eq_getElem (of_decide_eq_true hpart)⟩
      have hsilent : piece.IsSilent := hargs piece (List.mem_of_getElem? hpiece)
      rw [Template.expandParts, hpiece]
      dsimp only
      rw [Template.Expansion.cons, toList_renderPieces_cons]
      exact (ih hparts).gap (hsilent.render spelling)

/-- Words fill their own shapes. -/
theorem fills_words {words : List Word} (spelling : Spelling)
    (hwords : ∀ piece ∈ words.flatMap Word.fillings, piece.IsSilent) :
    Fills (words.flatMap Word.shape) (renderPieces spelling (words.map .word)).toList := by
  induction words with
  | nil => exact .done
  | cons w words ih =>
    rw [List.flatMap_cons, List.forall_mem_append] at hwords
    obtain ⟨hw, hwords⟩ := hwords
    rw [List.flatMap_cons, List.map_cons, toList_renderPieces_cons]
    refine Fills.append ?_ (ih hwords)
    cases w with
    | text s => exact Fills.literal s.toList
    | _ => exact Fills.filling (hw _ (List.mem_singleton.2 rfl))

/-- The line of a silent statement is silent, together with what is silent behind it. -/
theorem IsSilent.line (h : s.IsSilent) (hfits : s.Fits) (spelling : Spelling) {behind : List Char}
    (hbehind : Silent behind) : Silent ((s.line spelling).toList ++ behind) := by
  have hfills : Fills s.shape (renderPieces spelling s.pieces).toList := by
    cases s with
    | template text args => exact fills_expandParts spelling hfits h.fillings
    | verbatim words => exact fills_words spelling h.fillings
  have hquiet : Shape.isQuiet s.shape = true := (Bool.and_eq_true _ _ ▸ h.check).1
  have hsilent := hfills.silent hquiet hbehind
  rw [Statement.line, String.toList_append, List.append_assoc]
  exact hsilent

theorem isSilent_iff :
    s.IsSilent ↔ Shape.check s.shape = true ∧ ∀ piece ∈ s.fillings, piece.IsSilent :=
  ⟨fun h => ⟨h.check, h.fillings⟩, fun h => ⟨h.1, h.2⟩⟩

@[simp]
theorem isSilent_template {text : String} {args : List Piece} :
    (template text args).IsSilent ↔
      Shape.passes true text = true ∧ ∀ piece ∈ args, piece.IsSilent :=
  isSilent_iff

@[simp]
theorem isSilent_text {text : String} :
    (verbatim [.text text]).IsSilent ↔ Shape.passes false text = true := by
  simp [isSilent_iff, shape, fillings, Word.shape, Word.fillings, Shape.passes, Shape.ofChars]

@[simp]
theorem isSilent_ite {condition : Prop} [Decidable condition] {first second : Statement} :
    Statement.IsSilent (if condition then first else second) ↔
      (condition → first.IsSilent) ∧ (¬condition → second.IsSilent) := by
  split
  · next h => simp [h]
  · next h => simp [h]

end Statement

namespace Code

/-- Whether all lines of code are silent. -/
def IsSilent (code : Code) : Prop :=
  ∀ s ∈ code, s.IsSilent

/-- The text of silent code is silent. -/
theorem silent_text {code : Code} (h : code.IsSilent) (hfits : code.Fits) (spelling : Spelling) :
    Silent (code.text spelling).toList := by
  induction code with
  | nil => exact Silent.nil
  | cons s code ih =>
    obtain ⟨hs, hcode⟩ := List.forall_mem_cons.1 h
    obtain ⟨hfit, hfits⟩ := Code.fits_cons.1 hfits
    rw [Code.text_cons, String.toList_append]
    exact hs.line hfit spelling (ih hcode hfits)

@[simp]
theorem isSilent_nil : IsSilent [] := by
  simp [IsSilent]

@[simp]
theorem isSilent_cons {s : Statement} {code : Code} :
    IsSilent (s :: code) ↔ s.IsSilent ∧ IsSilent code := by
  simp [IsSilent]

theorem isSilent_flatMap {α : Type} {xs : List α} {f : α → Code} :
    IsSilent (xs.flatMap f) ↔ ∀ x ∈ xs, (f x).IsSilent := by
  simp only [IsSilent, List.mem_flatMap]
  exact ⟨fun h x hx s hs => h s ⟨x, hx, hs⟩, fun h s ⟨x, hx, hs⟩ => h x hx s hs⟩

theorem isSilent_map {α : Type} {xs : List α} {f : α → Statement} :
    IsSilent (xs.map f) ↔ ∀ x ∈ xs, (f x).IsSilent := by
  simp [IsSilent]

/-- A choice is silent if what is chosen is. -/
@[simp]
theorem isSilent_ite {condition : Prop} [Decidable condition] {first second : Code} :
    IsSilent (if condition then first else second) ↔
      (condition → first.IsSilent) ∧ (¬condition → second.IsSilent) := by
  split
  · next h => simp [h]
  · next h => simp [h]

end Code

end ValueBuilder
