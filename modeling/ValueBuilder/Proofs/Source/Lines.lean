import ValueBuilder.Proofs.Source.NameOwners
import ValueBuilder.Proofs.Source.Templates

/-!
# The text of appended code

Each statement writes one line.  Classes are spelled while the code is written, but a class that
has been named keeps its spelling.  So the text of code can be read off with the spelling that the
unit ends with.

* `Statement.line`, `Code.lines` and `Code.text` are the text of code under a spelling.
* `Spelling.spell_mentionAll_of_mem`: later names do not change the text of an earlier one.
* `SourceUnit.append_eq` is what appending comes to, for code whose templates fit.
-/

namespace ValueBuilder

open Java

/-! ## Texts under a spelling -/

/-- What a statement writes, up to the end of its line. -/
def Statement.pieces : Statement → List Piece
  | .template text args => (Template.expand text args).pieces
  | .verbatim words => words.map .word

/-- The classes that a statement names, in the order of its text. -/
def Statement.classes (s : Statement) : List ClassName :=
  s.pieces.flatMap Piece.classes

/-- The line of a statement. -/
def Statement.line (spelling : Spelling) (s : Statement) : String :=
  renderPieces spelling s.pieces ++ "\n"

namespace Code

/-- The classes that code names, in the order of its text. -/
def classes (code : Code) : List ClassName :=
  code.flatMap Statement.classes

/-- The lines of code. -/
def lines (spelling : Spelling) (code : Code) : List String :=
  code.map (Statement.line spelling)

/-- The text of code. -/
def text (spelling : Spelling) (code : Code) : String :=
  code.foldr (fun s rest => s.line spelling ++ rest) ""

variable {spelling : Spelling} {s : Statement} {first second : Code}

@[simp]
theorem text_nil : Code.text spelling [] = "" :=
  rfl

@[simp]
theorem text_cons : Code.text spelling (s :: second) = s.line spelling ++ Code.text spelling second :=
  rfl

theorem text_append :
    Code.text spelling (first ++ second) = first.text spelling ++ second.text spelling := by
  induction first with
  | nil => rw [List.nil_append, text_nil, String.empty_append]
  | cons s first ih => rw [List.cons_append, text_cons, text_cons, ih, String.append_assoc]

theorem text_eq_join (spelling : Spelling) (code : Code) :
    code.text spelling = String.join (code.lines spelling) := by
  induction code with
  | nil => rfl
  | cons s code ih => rw [text_cons, ih, lines, lines, List.map_cons, String.join_cons]

theorem classes_append : Code.classes (first ++ second) = first.classes ++ second.classes :=
  List.flatMap_append

end Code

theorem renderPieces_map_word (spelling : Spelling) (words : List Word) :
    renderPieces spelling (words.map .word) = renderWords words := by
  induction words with
  | nil => rfl
  | cons word words ih =>
    simp only [renderPieces, renderWords, List.map_cons, List.foldr_cons] at ih ⊢
    rw [ih]
    rfl

/-! ## Spellings that agree -/

namespace Java.JavaType

variable {spell other : ClassName → String}

mutual

/-- The text of a type depends on the spelling of its classes alone. -/
theorem render_congr (t : JavaType) (h : ∀ c ∈ t.classes, spell c = other c) :
    t.render spell = t.render other := by
  match t with
  | .primitive _ | .unbounded => rfl
  | .declared c args =>
    obtain ⟨hc, hargs⟩ := List.forall_mem_cons.1 h
    rw [render, render, hc, renderArgs_congr args hargs]
  | .array bound | .extending bound | .superOf bound =>
    rw [render, render, render_congr bound h]

theorem renderArgs_congr (args : List JavaType) (h : ∀ c ∈ classesOfArgs args, spell c = other c) :
    renderArgs spell args = renderArgs other args := by
  match args with
  | [] => rfl
  | arg :: rest =>
    obtain ⟨harg, hrest⟩ := List.forall_mem_append.1 h
    rw [renderArgs, renderArgs, render_congr arg harg, renderMore_congr rest hrest]

theorem renderMore_congr (args : List JavaType) (h : ∀ c ∈ classesOfArgs args, spell c = other c) :
    renderMore spell args = renderMore other args := by
  match args with
  | [] => rfl
  | arg :: rest =>
    obtain ⟨harg, hrest⟩ := List.forall_mem_append.1 h
    rw [renderMore, renderMore, render_congr arg harg, renderMore_congr rest hrest]

end

end Java.JavaType

variable {spelling other : Spelling} {s : Statement} {code : Code}

theorem Piece.render_congr {piece : Piece}
    (h : ∀ c ∈ piece.classes, spelling.spell c = other.spell c) :
    piece.render spelling = piece.render other := by
  cases piece with
  | word w => rfl
  | cls c => exact h c (List.mem_singleton.2 rfl)
  | type t => exact t.render_congr h

theorem Statement.line_congr (h : ∀ c ∈ s.classes, spelling.spell c = other.spell c) :
    s.line spelling = s.line other := by
  have hpieces (pieces : List Piece)
      (h : ∀ c ∈ pieces.flatMap Piece.classes, spelling.spell c = other.spell c) :
      renderPieces spelling pieces = renderPieces other pieces := by
    induction pieces with
    | nil => rfl
    | cons piece pieces ih =>
      obtain ⟨hpiece, hrest⟩ := List.forall_mem_append.1 h
      simp only [renderPieces, List.foldr_cons] at ih ⊢
      rw [Piece.render_congr hpiece, ih hrest]
  rw [line, line, hpieces s.pieces h]

theorem Code.text_congr (h : ∀ c ∈ Code.classes code, spelling.spell c = other.spell c) :
    code.text spelling = code.text other := by
  induction code with
  | nil => rfl
  | cons s code ih =>
    obtain ⟨hline, hrest⟩ := List.forall_mem_append.1 h
    rw [text_cons, text_cons, Statement.line_congr hline, ih hrest]

/-! ## Names that stay -/

namespace Spelling

theorem mentionAll_importing (table : NameTable) (classes : List ClassName) :
    (importing table).mentionAll classes = importing (classes.foldl NameTable.mention table) := by
  rw [mentionAll]
  induction classes generalizing table with
  | nil => rfl
  | cons c classes ih => exact ih (table.mention c)

theorem mentionAll_append (spelling : Spelling) (first second : List ClassName) :
    spelling.mentionAll (first ++ second) = (spelling.mentionAll first).mentionAll second :=
  List.foldl_append

theorem mentionAll_bare (classes : List ClassName) : bare.mentionAll classes = bare := by
  rw [mentionAll]
  induction classes with
  | nil => rfl
  | cons c classes ih => exact ih

/-- A class that has been named keeps its text, whatever is named later. -/
theorem spell_mentionAll_of_mem {named : List ClassName} {c : ClassName} (hc : c ∈ named)
    (later : List ClassName) :
    ((spelling.mentionAll named).mentionAll later).spell c =
      (spelling.mentionAll named).spell c := by
  cases spelling with
  | bare => rw [mentionAll_bare, mentionAll_bare]
  | importing table =>
    obtain ⟨before, behind, rfl⟩ := List.append_of_mem hc
    have hkeep (classes : List ClassName) :
        (classes.foldl NameTable.mention ((before.foldl NameTable.mention table).mention c)).spell c =
          ((before.foldl NameTable.mention table).mention c).spell c :=
      NameTable.spell_foldl_mention _ c classes
    simp only [mentionAll_importing, spell, List.foldl_append, List.foldl_cons]
    rw [hkeep behind, ← List.foldl_append, hkeep]

end Spelling

/-! ## Units -/

namespace SourceUnit

variable {u : SourceUnit}

theorem put_eq (h : u.error = none) (text : String) :
    u.put text = { u with body := u.body ++ text } := by
  rw [put, h]
  rfl

/-- A statement that fits names its classes and appends its line. -/
theorem write_eq (h : u.error = none) (hs : s.Fits) :
    u.write s =
      { u with
        spelling := u.spelling.mentionAll s.classes
        body := u.body ++ s.line (u.spelling.mentionAll s.classes) } := by
  cases s with
  | verbatim words =>
    have hclasses : (Statement.verbatim words).classes = [] := by
      simp [Statement.classes, Statement.pieces, List.flatMap_map, Piece.classes]
    have hline : (Statement.verbatim words).line u.spelling = renderWords words ++ "\n" := by
      rw [Statement.line, Statement.pieces, renderPieces_map_word]
    rw [hclasses, write, line, put_eq h]
    exact congrArg (fun text => { u with body := u.body ++ text }) hline.symm
  | template text args =>
    have hfault : (Template.expand text args).fault = none :=
      Template.expand_fault_eq_none_iff.2 hs
    have hmention : (u.mention (Statement.template text args).classes).error = none := h
    have hadd : u.add text args = (u.mention (Statement.template text args).classes).put
        (renderPieces (u.spelling.mentionAll (Statement.template text args).classes)
          (Template.expand text args).pieces) := by
      rw [add, h]
      simp only [Option.isSome_none, Bool.false_eq_true, if_false, hfault]
      rfl
    rw [write, addLine, hadd, put_eq hmention, put, h, Statement.line, Statement.pieces]
    simp only [mention, h, Option.isSome_none, Bool.false_eq_true, if_false, String.append_assoc]

/-- Code that fits names its classes, and appends its text as the unit spells it in the end. -/
theorem append_eq {code : Code} (h : u.error = none) (hcode : code.Fits) :
    u.append code =
      { u with
        spelling := u.spelling.mentionAll code.classes
        body := u.body ++ code.text (u.spelling.mentionAll code.classes) } := by
  induction code generalizing u with
  | nil =>
    rw [Code.text_nil, String.append_empty]
    rfl
  | cons s code ih =>
    obtain ⟨hs, hrest⟩ := Code.fits_cons.1 hcode
    have hnamed : (u.spelling.mentionAll s.classes).mentionAll (Code.classes code) =
        u.spelling.mentionAll (Code.classes (s :: code)) :=
      (u.spelling.mentionAll_append s.classes (Code.classes code)).symm
    -- The classes of the first line have been named when the others are.
    have hline : s.line (u.spelling.mentionAll s.classes) =
        s.line (u.spelling.mentionAll (Code.classes (s :: code))) := by
      rw [← hnamed]
      exact Statement.line_congr fun c hc =>
        (Spelling.spell_mentionAll_of_mem hc (Code.classes code)).symm
    have happend : u.append (s :: code) = (u.write s).append code := rfl
    have herror : (u.write s).error = none := (error_write hs).trans h
    rw [happend, ih herror hrest, write_eq h hs]
    simp only [hnamed, hline, Code.text_cons, String.append_assoc]

end SourceUnit

end ValueBuilder
