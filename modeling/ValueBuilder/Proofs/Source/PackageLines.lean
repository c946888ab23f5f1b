import ValueBuilder.Proofs.Source.BracketedLines

/-!
# Lines that are no package lines

A package line begins with the word `package`.  No line that a class writes begins with a small `p`,
whatever the names are that fill its gaps, as long as they have no line break: the first character
of a line is always the generator's own.

* `Shape.avoidsPackage` is the check of a shape, and `avoidsPackage_fill` says that fillings without
  a line break keep it.
* `Code.AvoidsPackage.text`: the text of code has no package line if the shapes of its statements
  have none.
* `AvoidsPackage.filter_parts` is what the check is good for.
-/

namespace ValueBuilder

open Java

/-- Whether a line is a package line. -/
def isPackageLine (line : String) : Bool :=
  "package ".toList.isPrefixOf line.toList

/-! ## Shapes -/

namespace Shape

/-- Whether no line of a shape begins with a small `p` or with a gap.  The first character begins a
line if `atStart`. -/
def avoidsPackage (atStart : Bool) : Shape → Bool
  | [] => true
  | some c :: shape => !(atStart && c == 'p') && avoidsPackage (c == '\n') shape
  | none :: shape => !atStart && avoidsPackage false shape

variable {atStart : Bool} {shape : Shape} {filling cs : List Char}

/-- What fills a gap does not begin a line. -/
theorem avoidsPackage_fill (h : '\n' ∉ filling) :
    avoidsPackage false (filling.map some ++ shape) = avoidsPackage false shape := by
  induction filling with
  | nil => rfl
  | cons c filling ih =>
    rw [List.mem_cons, not_or] at h
    have hline : (c == '\n') = false := beq_eq_false_iff_ne.2 (Ne.symm h.1)
    rw [List.map_cons, List.cons_append, avoidsPackage, hline, ih h.2]
    rfl

/-- Known characters can be put in front of shapes, wherever these begin. -/
theorem avoidsPackage_known {other : Shape}
    (h : ∀ atStart, avoidsPackage atStart shape = true → avoidsPackage atStart other = true)
    (hknown : avoidsPackage atStart (cs.map some ++ shape) = true) :
    avoidsPackage atStart (cs.map some ++ other) = true := by
  induction cs generalizing atStart with
  | nil => exact h atStart hknown
  | cons c cs ih =>
    rw [List.map_cons, List.cons_append, avoidsPackage, Bool.and_eq_true] at hknown ⊢
    exact ⟨hknown.1, ih hknown.2⟩

/-- The lines before a line break and those behind it can be judged apart. -/
theorem avoidsPackage_append (first : Shape) :
    avoidsPackage atStart (first ++ some '\n' :: shape) =
      (avoidsPackage atStart first && avoidsPackage true shape) := by
  induction first generalizing atStart with
  | nil => cases atStart <;> rfl
  | cons c first ih =>
    cases c with
    | some c => rw [List.cons_append, avoidsPackage, avoidsPackage, ih, Bool.and_assoc]
    | none => rw [List.cons_append, avoidsPackage, avoidsPackage, ih, Bool.and_assoc]

end Shape

/-- Whether no line of a text begins like a package line. -/
def AvoidsPackage (text : String) : Prop :=
  Shape.avoidsPackage true (text.toList.map some) = true

namespace AvoidsPackage

/-- The first part continues a line unless it is at the start of one; the others begin a line. -/
theorem head?_splitBy {atStart : Bool} {cs : List Char}
    (h : Shape.avoidsPackage atStart (cs.map some) = true) :
    (atStart = true → (splitBy '\n' cs).1.head? ≠ some 'p') ∧
      ∀ line ∈ (splitBy '\n' cs).2, line.head? ≠ some 'p' := by
  induction cs generalizing atStart with
  | nil => simp [splitBy]
  | cons c cs ih =>
    rw [List.map_cons, Shape.avoidsPackage, Bool.and_eq_true] at h
    obtain ⟨hhead, hrest⟩ := h
    obtain ⟨hfirst, hothers⟩ := ih hrest
    rw [splitBy]
    dsimp only
    split
    · next hline => exact ⟨by simp, List.forall_mem_cons.2 ⟨hfirst hline, hothers⟩⟩
    · refine ⟨?_, hothers⟩
      rintro rfl
      simpa using hhead

/-- A text whose lines do not begin like one has no package line. -/
theorem isPackageLine_eq_false {text : String} (h : AvoidsPackage text) :
    ∀ line ∈ parts '\n' text, isPackageLine line = false := by
  obtain ⟨hfirst, hothers⟩ := head?_splitBy h
  have hheads : ∀ cs ∈ (splitBy '\n' text.toList).1 :: (splitBy '\n' text.toList).2,
      cs.head? ≠ some 'p' := List.forall_mem_cons.2 ⟨hfirst rfl, hothers⟩
  intro line hline
  obtain ⟨cs, hcs, rfl⟩ := List.mem_map.1 hline
  have hhead := hheads cs hcs
  have hchars : (String.ofList cs).toList = cs := String.toList_ofList
  unfold isPackageLine
  rw [hchars]
  cases cs with
  | nil => rfl
  | cons c cs =>
    have hc : ¬c = 'p' := by simpa using hhead
    have hword : "package ".toList = 'p' :: "ackage ".toList := by decide
    rw [hword, List.isPrefixOf, beq_eq_false_iff_ne.2 (Ne.symm hc), Bool.false_and]

theorem filter_parts {text : String} (h : AvoidsPackage text) :
    (parts '\n' text).filter isPackageLine = [] := by
  rw [List.filter_eq_nil_iff]
  intro line hline
  rw [h.isPackageLine_eq_false line hline]
  exact Bool.false_ne_true

theorem append_line {first rest : String} (hfirst : AvoidsPackage first)
    (hrest : AvoidsPackage rest) : AvoidsPackage (first ++ "\n" ++ rest) := by
  have hchars : (first ++ "\n" ++ rest).toList.map some =
      first.toList.map some ++ some '\n' :: rest.toList.map some := by
    simp
  unfold AvoidsPackage
  rw [hchars, Shape.avoidsPackage_append, hfirst, hrest]
  rfl

end AvoidsPackage

/-! ## Fillings -/

/-- Within a line, one more quote before a text makes an even number of quotes odd. -/
theorem evenQuotes_not (odd : Bool) {cs : List Char} (h : '\n' ∉ cs) :
    evenQuotes (!odd) cs = !evenQuotes odd cs := by
  induction cs generalizing odd with
  | nil => cases odd <;> rfl
  | cons c cs ih =>
    rw [List.mem_cons, not_or] at h
    rw [evenQuotes, evenQuotes, if_neg (Ne.symm h.1), if_neg (Ne.symm h.1)]
    split
    · exact ih _ h.2
    · exact ih _ h.2

/-- A line break ends the line of the quotes before it, so a text without an effect has none. -/
theorem Neutral.notMem_lineBreak {text : String} (h : Neutral text) : '\n' ∉ text.toList := by
  intro hbreak
  obtain ⟨before, behind, htext, hfirst⟩ := List.eq_append_cons_of_mem hbreak
  have hsplit (odd : Bool) (ds : List Char) :
      evenQuotes odd ds = (evenQuotes odd before && evenQuotes false (behind ++ ds)) := by
    rw [← h.quotes odd ds, htext, List.append_assoc, List.cons_append, evenQuotes_append]
  have heven : evenQuotes false before = true := (Bool.and_eq_true_iff.1 (hsplit false []).symm).1
  have hodd : evenQuotes true before = true := (Bool.and_eq_true_iff.1 (hsplit true ['"']).symm).1
  have hflip : evenQuotes true before = !evenQuotes false before :=
    evenQuotes_not false hfirst
  rw [heven, hodd] at hflip
  cases hflip

/-! ## Statements -/

namespace Shape

/-- Whether no line of a text is a package line, and none begins with a gap if the text is a
template. -/
def textAvoidsPackage (isTemplate : Bool) (text : String) : Bool :=
  avoidsPackage true (ofChars isTemplate text.toList)

/-- The characters of a literal are found by unification. -/
theorem textAvoidsPackage_ofList {isTemplate : Bool} {text : String} {cs : List Char}
    (hchars : text = String.ofList cs)
    (hcheck : avoidsPackage true (ofChars isTemplate cs) = true) :
    textAvoidsPackage isTemplate text = true := by
  rw [textAvoidsPackage, hchars, String.toList_ofList]
  exact hcheck

/-- Rewrites by a check of the text, which is left to a discharger. -/
theorem textAvoidsPackage_of_check {isTemplate : Bool} {text : String}
    (h : textAvoidsPackage isTemplate text = true) : textAvoidsPackage isTemplate text = true :=
  h

end Shape

namespace Statement

/-- Whether a statement writes no package line. -/
def AvoidsPackage (s : Statement) : Prop :=
  Shape.avoidsPackage true s.shape = true

variable {s : Statement} {atStart : Bool}

theorem avoidsPackage_expandParts {args : List Piece} {parts : List Template.Part}
    (spelling : Spelling) (hfits : parts.all (Template.Part.fits args.length) = true)
    (hargs : ∀ piece ∈ args, '\n' ∉ (piece.render spelling).toList)
    (h : Shape.avoidsPackage atStart (Template.shape parts) = true) :
    Shape.avoidsPackage atStart
      ((renderPieces spelling (Template.expandParts args parts).pieces).toList.map some) =
        true := by
  induction parts generalizing atStart with
  | nil => rfl
  | cons part parts ih =>
    rw [List.all_cons, Bool.and_eq_true] at hfits
    obtain ⟨hpart, hparts⟩ := hfits
    cases part with
    | malformed position => cases hpart
    | literal c =>
      have hliteral : (Piece.word (.text (String.singleton c))).render spelling =
          String.singleton c := rfl
      rw [Template.shape, Shape.avoidsPackage, Bool.and_eq_true] at h
      rw [Template.expandParts, Template.Expansion.cons, toList_renderPieces_cons, hliteral,
        String.toList_singleton, List.singleton_append, List.map_cons, Shape.avoidsPackage,
        Bool.and_eq_true]
      exact ⟨h.1, ih hparts h.2⟩
    | argument index =>
      obtain ⟨piece, hpiece⟩ : ∃ piece, args[index - 1]? = some piece :=
        ⟨_, List.getElem?_eq_getElem (of_decide_eq_true hpart)⟩
      rw [Template.shape, Shape.avoidsPackage, Bool.and_eq_true, Bool.not_eq_true'] at h
      obtain ⟨rfl, hrest⟩ := h
      rw [Template.expandParts, hpiece]
      dsimp only
      rw [Template.Expansion.cons, toList_renderPieces_cons, List.map_append,
        Shape.avoidsPackage_fill (hargs piece (List.mem_of_getElem? hpiece))]
      exact ih hparts hrest

theorem avoidsPackage_words {words : List Word} (spelling : Spelling)
    (hwords : ∀ piece ∈ words.flatMap Word.fillings, '\n' ∉ (piece.render spelling).toList)
    (h : Shape.avoidsPackage atStart (words.flatMap Word.shape) = true) :
    Shape.avoidsPackage atStart
      ((renderPieces spelling (words.map .word)).toList.map some) = true := by
  induction words generalizing atStart with
  | nil => rfl
  | cons w words ih =>
    rw [List.flatMap_cons, List.forall_mem_append] at hwords
    obtain ⟨hw, hwords⟩ := hwords
    rw [List.flatMap_cons] at h
    rw [List.map_cons, toList_renderPieces_cons, List.map_append]
    have hgap (filling : List Char) (hfilling : '\n' ∉ filling)
        (h : Shape.avoidsPackage atStart ([none] ++ words.flatMap Word.shape) = true) :
        Shape.avoidsPackage atStart
          (filling.map some ++ (renderPieces spelling (words.map .word)).toList.map some) =
            true := by
      rw [List.singleton_append, Shape.avoidsPackage, Bool.and_eq_true, Bool.not_eq_true'] at h
      obtain ⟨rfl, hrest⟩ := h
      rw [Shape.avoidsPackage_fill hfilling]
      exact ih hwords hrest
    cases w with
    | text s => exact Shape.avoidsPackage_known (fun _ => ih hwords) h
    | _ => exact hgap _ (hw _ (List.mem_singleton.2 rfl)) h

/-- With fillings that have no line break, the own text of a statement decides. -/
theorem AvoidsPackage.text (h : s.AvoidsPackage) (hfits : s.Fits) (spelling : Spelling)
    (hfillings : ∀ piece ∈ s.fillings, '\n' ∉ (piece.render spelling).toList) :
    ValueBuilder.AvoidsPackage (renderPieces spelling s.pieces) := by
  cases s with
  | template text args => exact avoidsPackage_expandParts spelling hfits hfillings h
  | verbatim words => exact avoidsPackage_words spelling hfillings h

@[simp]
theorem avoidsPackage_template {text : String} {args : List Piece} :
    (template text args).AvoidsPackage ↔ Shape.textAvoidsPackage true text = true :=
  Iff.rfl

@[simp]
theorem avoidsPackage_text {text : String} :
    (verbatim [.text text]).AvoidsPackage ↔ Shape.textAvoidsPackage false text = true := by
  simp [AvoidsPackage, shape, Word.shape, Shape.textAvoidsPackage, Shape.ofChars]

@[simp]
theorem avoidsPackage_ite {condition : Prop} [Decidable condition] {first second : Statement} :
    Statement.AvoidsPackage (if condition then first else second) ↔
      (condition → first.AvoidsPackage) ∧ (¬condition → second.AvoidsPackage) := by
  by_cases h : condition <;> simp [h]

end Statement

/-! ## Code -/

namespace Code

variable {s : Statement} {code : Code} {parts : List Code}

/-- Whether no statement of code writes a package line. -/
def AvoidsPackage (code : Code) : Prop :=
  ∀ s ∈ code, s.AvoidsPackage

/-- The text of such code has no package line, whatever fills it. -/
theorem AvoidsPackage.text (h : code.AvoidsPackage) (hfits : code.Fits) (spelling : Spelling)
    (hfillings : ∀ s ∈ code, ∀ piece ∈ s.fillings, '\n' ∉ (piece.render spelling).toList) :
    ValueBuilder.AvoidsPackage (code.text spelling) := by
  induction code with
  | nil => rfl
  | cons s code ih =>
    obtain ⟨hs, hcode⟩ := List.forall_mem_cons.1 h
    obtain ⟨hfit, hfits⟩ := Code.fits_cons.1 hfits
    obtain ⟨hfilling, hfillings⟩ := List.forall_mem_cons.1 hfillings
    rw [Code.text_cons, Statement.line]
    exact (hs.text hfit spelling hfilling).append_line (ih hcode hfits hfillings)

@[simp]
theorem avoidsPackage_nil : AvoidsPackage [] := by
  simp [AvoidsPackage]

@[simp]
theorem avoidsPackage_cons : AvoidsPackage (s :: code) ↔ s.AvoidsPackage ∧ code.AvoidsPackage := by
  simp [AvoidsPackage]

@[simp]
theorem avoidsPackage_joined_nil : AvoidsPackage (joined []) :=
  avoidsPackage_nil

@[simp]
theorem avoidsPackage_joined_cons :
    AvoidsPackage (joined (code :: parts)) ↔ code.AvoidsPackage ∧ AvoidsPackage (joined parts) := by
  simp [joined, AvoidsPackage, or_imp, forall_and]

@[simp]
theorem avoidsPackage_flatMap {α : Type} {xs : List α} {f : α → Code} :
    AvoidsPackage (xs.flatMap f) ↔ ∀ x ∈ xs, (f x).AvoidsPackage := by
  simp only [AvoidsPackage, List.mem_flatMap]
  exact ⟨fun h x hx s hs => h s ⟨x, hx, hs⟩, fun h s ⟨x, hx, hs⟩ => h x hx s hs⟩

@[simp]
theorem avoidsPackage_map {α : Type} {xs : List α} {f : α → Statement} :
    AvoidsPackage (xs.map f) ↔ ∀ x ∈ xs, (f x).AvoidsPackage := by
  simp [AvoidsPackage]

@[simp]
theorem avoidsPackage_ite {condition : Prop} [Decidable condition] {first second : Code} :
    Code.AvoidsPackage (if condition then first else second) ↔
      (condition → first.AvoidsPackage) ∧ (¬condition → second.AvoidsPackage) := by
  by_cases h : condition <;> simp [h]

end Code

end ValueBuilder
