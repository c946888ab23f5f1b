import Mathlib.Data.List.ReduceOption
import ValueBuilder.Builder.Layout
import ValueBuilder.Proofs.Source.SilentLines
import ValueBuilder.Proofs.Text.Brackets

/-!
# Brackets in lines

What fills the gaps of a line has no effect on brackets and quotes, as long as names and types have
none of them.  So the effect of a line is that of the generator's own text, and the effect of code is
the product of its lines.

* `Piece.IsTame` and `Code.IsTame` are about the words that fill gaps.  The classes and types among
  the arguments are judged by `ClassName.IsPlain`.
* `Statement.effect_eq` and `Code.effect_text`: with such fillings, the own text decides.
* `Effect.ofText_ofList` computes the effect of an own text.  Most texts do no more than to open or
  to close something (`Effect.opens`, `Effect.closes`, `Effect.calls`, `Effect.returns`).
-/

namespace ValueBuilder

open Java

/-! ## Texts with the same effect -/

/-- Whether two texts have the same effect, whatever stands before them in their line. -/
structure SameEffect (cs ds : List Char) : Prop where
  braces : imbalance '\x7b' '\x7d' cs = imbalance '\x7b' '\x7d' ds
  parens : imbalance '(' ')' cs = imbalance '(' ')' ds
  quotes : ∀ odd, evenQuotes odd cs = evenQuotes odd ds

namespace SameEffect

variable {cs ds : List Char}

theorem refl (cs : List Char) : SameEffect cs cs :=
  ⟨rfl, rfl, fun _ => rfl⟩

theorem cons (h : SameEffect cs ds) (c : Char) : SameEffect (c :: cs) (c :: ds) := by
  constructor
  · rw [imbalance, imbalance, h.braces]
  · rw [imbalance, imbalance, h.parens]
  · intro odd
    rw [evenQuotes, evenQuotes, h.quotes, h.quotes, h.quotes]

theorem trans {es : List Char} (h : SameEffect cs ds) (h' : SameEffect ds es) : SameEffect cs es :=
  ⟨h.braces.trans h'.braces, h.parens.trans h'.parens, fun odd => (h.quotes odd).trans (h'.quotes odd)⟩

/-- A character that does not matter can be left out. -/
theorem skip (h : SameEffect cs ds) {c : Char} (hc : c ∉ marks) : SameEffect cs (c :: ds) := by
  simp only [marks, List.mem_cons, List.not_mem_nil, or_false, not_or] at hc
  obtain ⟨hopen, hclose, hcall, hreturn, hquote, hline⟩ := hc
  constructor
  · rw [imbalance, if_neg hopen, if_neg hclose, h.braces]
  · rw [imbalance, if_neg hcall, if_neg hreturn, h.parens]
  · intro odd
    rw [evenQuotes, if_neg hquote, if_neg hline, h.quotes]

theorem append (h : SameEffect cs ds) (before : List Char) :
    SameEffect (before ++ cs) (before ++ ds) := by
  induction before with
  | nil => exact h
  | cons c before ih => exact ih.cons c

/-- A neutral text can be put in front. -/
theorem fill (h : SameEffect cs ds) {text : String} (htext : Neutral text) :
    SameEffect (text.toList ++ cs) ds := by
  constructor
  · rw [imbalance_append, htext.braces, one_mul, h.braces]
  · rw [imbalance_append, htext.parens, one_mul, h.parens]
  · exact fun odd => (htext.quotes odd cs).trans (h.quotes odd)

theorem effect_eq (h : SameEffect cs ds) : Effect.ofChars cs = Effect.ofChars ds :=
  Effect.ext h.braces h.parens (h.quotes false)

end SameEffect

/-! ## Classes and types -/

/-- Whether the name of a class has no bracket, no quote and no line break. -/
def Java.ClassName.IsPlain (c : ClassName) : Prop :=
  Plain c.qualifiedName

namespace Java.ClassName.IsPlain

variable {c : ClassName}

theorem nestedPath (h : c.IsPlain) : Plain c.nestedPath :=
  h.of_infix c.infix_qualifiedName

theorem simpleName (h : c.IsPlain) : Plain c.simpleName :=
  h.nestedPath.of_infix (infix_intercalate List.getLastD_mem_cons)

theorem spell (h : c.IsPlain) (spelling : Spelling) : Plain (spelling.spell c) := by
  cases spelling with
  | bare => exact h.nestedPath
  | importing table =>
    rw [Spelling.spell, NameTable.spell]
    split
    · exact h.nestedPath
    · exact h

end Java.ClassName.IsPlain

namespace Java.JavaType

variable {spell : ClassName → String}

mutual

theorem plain_render (t : JavaType) (h : ∀ c ∈ t.classes, Plain (spell c)) :
    Plain (t.render spell) := by
  match t with
  | .primitive p =>
    rw [render]
    cases p <;> decide
  | .unbounded =>
    rw [render]
    decide
  | .declared c args =>
    obtain ⟨hc, hargs⟩ := List.forall_mem_cons.1 h
    rw [render]
    exact Plain.append hc (plain_renderArgs args hargs)
  | .array component =>
    rw [render]
    exact (plain_render component h).append (by decide)
  | .extending bound | .superOf bound =>
    rw [render]
    exact Plain.append (by decide) (plain_render bound h)

theorem plain_renderArgs (args : List JavaType) (h : ∀ c ∈ classesOfArgs args, Plain (spell c)) :
    Plain (renderArgs spell args) := by
  match args with
  | [] =>
    rw [renderArgs]
    decide
  | arg :: rest =>
    obtain ⟨harg, hrest⟩ := List.forall_mem_append.1 h
    rw [renderArgs]
    exact (Plain.append (by decide) (plain_render arg harg)).append (plain_renderMore rest hrest)

theorem plain_renderMore (args : List JavaType) (h : ∀ c ∈ classesOfArgs args, Plain (spell c)) :
    Plain (renderMore spell args) := by
  match args with
  | [] =>
    rw [renderMore]
    decide
  | arg :: rest =>
    obtain ⟨harg, hrest⟩ := List.forall_mem_append.1 h
    rw [renderMore]
    exact (Plain.append (by decide) (plain_render arg harg)).append (plain_renderMore rest hrest)

end

/-- The classes of a type whose text is plain are plain. -/
theorem isPlain_of_display {t : JavaType} (h : Plain t.display) : ∀ c ∈ t.classes, c.IsPlain :=
  fun _ hc => h.of_infix (infix_render t hc)

end Java.JavaType

/-! ## Fillings -/

/-- Whether an argument is a class or a type, or a word without an effect. -/
def Piece.IsTame : Piece → Prop
  | .word w => Neutral w.render
  | .cls _ | .type _ => True

/-- Whether all words that fill the gaps of a line are without an effect. -/
def Statement.IsTame (s : Statement) : Prop :=
  ∀ piece ∈ s.fillings, piece.IsTame

/-- Whether all words that fill the gaps of code are without an effect. -/
def Code.IsTame (code : Code) : Prop :=
  ∀ s ∈ code, s.IsTame

theorem Piece.IsTame.render {piece : Piece} (h : piece.IsTame)
    (hclasses : ∀ c ∈ piece.classes, c.IsPlain) (spelling : Spelling) :
    Neutral (piece.render spelling) := by
  cases piece with
  | word w => exact h
  | cls c => exact ((hclasses c (List.mem_singleton.2 rfl)).spell spelling).neutral
  | type t => exact (t.plain_render fun c hc => (hclasses c hc).spell spelling).neutral

/-! ## Effects of texts -/

namespace Effect

variable {text : String} {e : Effect}

/-- A line that opens a block. -/
def opens : Effect := ⟨⟨0, 1⟩, 1, true⟩

/-- A line that closes a block. -/
def closes : Effect := ⟨⟨1, 0⟩, 1, true⟩

/-- A line with a call whose arguments follow. -/
def calls : Effect := ⟨1, ⟨0, 1⟩, true⟩

/-- A line that ends the arguments of a call. -/
def returns : Effect := ⟨1, ⟨1, 0⟩, true⟩

@[simp]
theorem opens_mul_closes : opens * closes = 1 :=
  rfl

@[simp]
theorem opens_mul_closes_mul (e : Effect) : opens * (closes * e) = e := by
  rw [← mul_assoc, opens_mul_closes, one_mul]

@[simp]
theorem calls_mul_returns : calls * returns = 1 :=
  rfl

@[simp]
theorem calls_mul_returns_mul (e : Effect) : calls * (returns * e) = e := by
  rw [← mul_assoc, calls_mul_returns, one_mul]

/-- The effect of a text of the generator's own.  A placeholder in it has none. -/
def ofText (text : String) : Effect :=
  ofChars text.toList

/-- The effect of texts in one line. -/
def ofTexts (texts : List String) : Effect :=
  ofChars (texts.flatMap String.toList)

/-- Whether a character may matter.  Letters are told apart by one comparison of numbers. -/
def mayMatter (c : Char) : Bool :=
  c.toNat < 42 || 122 < c.toNat

theorem ofChars_filter (cs : List Char) : ofChars (cs.filter mayMatter) = ofChars cs := by
  refine SameEffect.effect_eq ?_
  induction cs with
  | nil => exact .refl _
  | cons c cs ih =>
    rw [List.filter_cons]
    split
    · exact ih.cons c
    · next hskip =>
      have hmarks : marks.all mayMatter = true := by decide
      exact ih.skip fun hmark => hskip (List.all_eq_true.1 hmarks c hmark)

/-- Computes the effect of a text whose characters are known.  Those of a literal are found by
unification. -/
theorem ofText_ofList {cs : List Char} (hchars : text = String.ofList cs)
    (heffect : ofChars (cs.filter mayMatter) = e) : ofText text = e := by
  rw [ofText, hchars, String.toList_ofList, ← ofChars_filter, heffect]

theorem flatMap_toList {texts : List String} {chars : List (List Char)}
    (hchars : List.Forall₂ (fun text cs => text = String.ofList cs) texts chars) :
    texts.flatMap String.toList = chars.flatten := by
  induction hchars with
  | nil => rfl
  | cons htext _ ih => rw [List.flatMap_cons, List.flatten_cons, htext, String.toList_ofList, ih]

theorem ofTexts_ofList {texts : List String} {chars : List (List Char)}
    (hchars : List.Forall₂ (fun text cs => text = String.ofList cs) texts chars)
    (heffect : ofChars (chars.flatten.filter mayMatter) = e) : ofTexts texts = e := by
  rw [ofTexts, flatMap_toList hchars, ← ofChars_filter, heffect]

/-- Rewrites by what a discharger finds for the text. -/
theorem ofText_eq (e : Effect) (h : ofText text = e) : ofText text = e :=
  h

end Effect

/-! ## Lines -/

/-- The characters of a template that stand for themselves have the effect of all of them. -/
theorem Template.sameEffect_shape {arity position ordinary : Nat} {progress : Progress}
    {cs : List Char}
    (hfits : (partsFrom position ordinary progress cs).all (Part.fits arity) = true) :
    SameEffect (shape (partsFrom position ordinary progress cs)).reduceOption cs := by
  have hdigits : marks.all (!·.isDigit) = true := by decide
  have hskip (c : Char) (hdigit : c.isDigit = true) : c ∉ marks := fun hmark => by
    simpa [hdigit] using List.all_eq_true.1 hdigits c hmark
  -- Whatever has been read of a placeholder, its next character does not matter either.
  induction cs generalizing position ordinary progress with
  | nil =>
    cases progress with
    | none => exact .refl _
    | _ => cases hfits
  | cons c cs ih =>
    cases progress with
    | none =>
      rw [partsFrom] at hfits ⊢
      split_ifs at hfits ⊢ with hpercent
      · exact (ih hfits).skip (by rw [eq_of_beq hpercent]; decide)
      · exact (ih hfits).cons c
    | percent start =>
      rw [partsFrom] at hfits ⊢
      split_ifs at hfits ⊢ with hpercent hs hdigit
      · exact eq_of_beq hpercent ▸ (ih hfits).cons '%'
      · exact (ih (Bool.and_eq_true _ _ ▸ hfits).2).skip (by rw [eq_of_beq hs]; decide)
      · exact (ih hfits).skip (hskip c hdigit)
      · cases hfits
    | digits start value =>
      rw [partsFrom] at hfits ⊢
      split_ifs at hfits ⊢ with hdigit hdollar
      · exact (ih hfits).skip (hskip c hdigit)
      · exact (ih hfits).skip (by rw [eq_of_beq hdollar]; decide)
      · cases hfits
    | dollar start index =>
      rw [partsFrom] at hfits ⊢
      split_ifs at hfits ⊢ with hs
      · obtain ⟨hs, -⟩ : (c == 's') = true ∧ (index != 0) = true := Bool.and_eq_true _ _ ▸ hs
        exact (ih (Bool.and_eq_true _ _ ▸ hfits).2).skip (by rw [eq_of_beq hs]; decide)
      · cases hfits

/-- The text of a word that is the generator's own. -/
def Word.own? : Word → Option String
  | .text s => some s
  | _ => none

namespace Statement

/-- What the generator's own text in a line does. -/
def effect : Statement → Effect
  | .template text _ => .ofText text
  | .verbatim words => .ofTexts (words.filterMap Word.own?)

theorem sameEffect_expandParts {args : List Piece} {parts : List Template.Part}
    (spelling : Spelling) (hfits : parts.all (Template.Part.fits args.length) = true)
    (hargs : ∀ piece ∈ args, Neutral (piece.render spelling)) :
    SameEffect (renderPieces spelling (Template.expandParts args parts).pieces).toList
      (Template.shape parts).reduceOption := by
  induction parts with
  | nil => exact .refl _
  | cons part parts ih =>
    rw [List.all_cons, Bool.and_eq_true] at hfits
    obtain ⟨hpart, hparts⟩ := hfits
    cases part with
    | malformed position => cases hpart
    | literal c =>
      have hliteral : (Piece.word (.text (String.singleton c))).render spelling =
          String.singleton c := rfl
      rw [Template.expandParts, Template.Expansion.cons, toList_renderPieces_cons, hliteral,
        String.toList_singleton]
      exact (ih hparts).cons c
    | argument index =>
      obtain ⟨piece, hpiece⟩ : ∃ piece, args[index - 1]? = some piece :=
        ⟨_, List.getElem?_eq_getElem (of_decide_eq_true hpart)⟩
      rw [Template.expandParts, hpiece]
      dsimp only
      rw [Template.Expansion.cons, toList_renderPieces_cons]
      exact (ih hparts).fill (hargs piece (List.mem_of_getElem? hpiece))

theorem sameEffect_words {words : List Word} (spelling : Spelling)
    (hwords : ∀ piece ∈ words.flatMap Word.fillings, Neutral (piece.render spelling)) :
    SameEffect (renderPieces spelling (words.map .word)).toList
      ((words.filterMap Word.own?).flatMap String.toList) := by
  induction words with
  | nil => exact .refl _
  | cons w words ih =>
    rw [List.flatMap_cons, List.forall_mem_append] at hwords
    obtain ⟨hw, hwords⟩ := hwords
    rw [List.map_cons, toList_renderPieces_cons]
    cases w with
    | text s => exact (ih hwords).append s.toList
    | _ => exact (ih hwords).fill (hw _ (List.mem_singleton.2 rfl))

/-- With fillings that have no effect, the line has the effect of its own text. -/
theorem effect_eq {s : Statement} (spelling : Spelling) (hfits : s.Fits)
    (hfillings : ∀ piece ∈ s.fillings, Neutral (piece.render spelling)) :
    Effect.ofChars (renderPieces spelling s.pieces).toList = s.effect := by
  cases s with
  | template text args =>
    exact ((sameEffect_expandParts spelling hfits hfillings).trans
      (Template.sameEffect_shape hfits)).effect_eq
  | verbatim words => exact (sameEffect_words spelling hfillings).effect_eq

@[simp]
theorem effect_template {text : String} {args : List Piece} :
    (template text args).effect = .ofText text :=
  rfl

@[simp]
theorem effect_text {text : String} : (verbatim [.text text]).effect = .ofText text := by
  simp [effect, Word.own?, Effect.ofTexts, Effect.ofText]

theorem effect_verbatim (words : List Word) :
    (verbatim words).effect = .ofTexts (words.filterMap Word.own?) :=
  rfl

@[simp]
theorem effect_ite {condition : Prop} [Decidable condition] {first second : Statement} :
    Statement.effect (if condition then first else second) =
      if condition then first.effect else second.effect :=
  apply_ite _ _ _ _

end Statement

/-! ## Code -/

namespace Code

variable {s : Statement} {code : Code} {parts : List Code}

/-- What the generator's own text in code does. -/
def effect (code : Code) : Effect :=
  (code.map Statement.effect).prod

@[simp]
theorem effect_nil : Code.effect [] = 1 :=
  rfl

@[simp]
theorem effect_cons : Code.effect (s :: code) = s.effect * code.effect := by
  rw [effect, List.map_cons, List.prod_cons, effect]

@[simp]
theorem effect_joined_nil : Code.effect (joined []) = 1 :=
  rfl

@[simp]
theorem effect_joined_cons :
    Code.effect (joined (code :: parts)) = code.effect * Code.effect (joined parts) := by
  rw [joined, List.flatten_cons, effect, List.map_append, List.prod_append]
  rfl

@[simp]
theorem effect_ite {condition : Prop} [Decidable condition] {first second : Code} :
    Code.effect (if condition then first else second) =
      if condition then first.effect else second.effect :=
  apply_ite _ _ _ _

theorem effect_flatMap_eq_prod {α : Type} (xs : List α) (f : α → Code) :
    Code.effect (xs.flatMap f) = (xs.map fun x => (f x).effect).prod := by
  induction xs with
  | nil => rfl
  | cons x xs ih =>
    rw [List.flatMap_cons, effect, List.map_append, List.prod_append, List.map_cons,
      List.prod_cons, ← ih, effect, effect]

/-- Parts without an effect have none together. -/
theorem effect_flatMap {α : Type} {xs : List α} {f : α → Code}
    (h : ∀ x ∈ xs, (f x).effect = 1) : Code.effect (xs.flatMap f) = 1 := by
  rw [effect_flatMap_eq_prod]
  exact List.prod_eq_one (List.forall_mem_map.2 h)

theorem effect_map {α : Type} {xs : List α} {f : α → Statement}
    (h : ∀ x ∈ xs, (f x).effect = 1) : Code.effect (xs.map f) = 1 := by
  rw [effect, List.map_map]
  exact List.prod_eq_one (List.forall_mem_map.2 h)

/-- With words that have no effect and plain names of classes, the text of code has the effect of
the generator's own text. -/
theorem effect_text (spelling : Spelling) (hfits : code.Fits) (hwords : code.IsTame)
    (hclasses : ∀ s ∈ code, ∀ piece ∈ s.fillings, ∀ c ∈ piece.classes, c.IsPlain) :
    Effect.ofChars (code.text spelling).toList = code.effect := by
  induction code with
  | nil => rfl
  | cons s code ih =>
    obtain ⟨hfit, hfits⟩ := Code.fits_cons.1 hfits
    obtain ⟨hword, hwords⟩ := List.forall_mem_cons.1 hwords
    obtain ⟨hclass, hclasses⟩ := List.forall_mem_cons.1 hclasses
    have hline : Effect.ofChars (renderPieces spelling s.pieces).toList = s.effect :=
      Statement.effect_eq spelling hfit fun piece hpiece =>
        (hword piece hpiece).render (hclass piece hpiece) spelling
    have htext : (Code.text spelling (s :: code)).toList =
        (renderPieces spelling s.pieces).toList ++ '\n' :: (Code.text spelling code).toList := by
      simp [Statement.line]
    rw [htext, Effect.ofChars_append, hline, ih hfits hwords hclasses, effect_cons]

/-! ## Words that fill gaps -/

@[simp]
theorem isTame_nil : Code.IsTame [] := by
  simp [IsTame]

@[simp]
theorem isTame_cons : Code.IsTame (s :: code) ↔ s.IsTame ∧ code.IsTame := by
  simp [IsTame]

@[simp]
theorem isTame_joined_nil : Code.IsTame (joined []) :=
  isTame_nil

@[simp]
theorem isTame_joined_cons :
    Code.IsTame (joined (code :: parts)) ↔ code.IsTame ∧ Code.IsTame (joined parts) := by
  simp [joined, IsTame, or_imp, forall_and]

@[simp]
theorem isTame_flatMap {α : Type} {xs : List α} {f : α → Code} :
    Code.IsTame (xs.flatMap f) ↔ ∀ x ∈ xs, (f x).IsTame := by
  simp only [IsTame, List.mem_flatMap]
  exact ⟨fun h x hx s hs => h s ⟨x, hx, hs⟩, fun h s ⟨x, hx, hs⟩ => h x hx s hs⟩

@[simp]
theorem isTame_map {α : Type} {xs : List α} {f : α → Statement} :
    Code.IsTame (xs.map f) ↔ ∀ x ∈ xs, (f x).IsTame := by
  simp [IsTame]

@[simp]
theorem isTame_ite {condition : Prop} [Decidable condition] {first second : Code} :
    Code.IsTame (if condition then first else second) ↔
      (condition → first.IsTame) ∧ (¬condition → second.IsTame) := by
  by_cases h : condition <;> simp [h]

end Code

namespace Statement

@[simp]
theorem isTame_template {text : String} {args : List Piece} :
    (template text args).IsTame ↔ ∀ piece ∈ args, piece.IsTame :=
  Iff.rfl

@[simp]
theorem isTame_text (text : String) : (verbatim [.text text]).IsTame := by
  simp [IsTame, fillings, Word.fillings]

theorem isTame_verbatim {words : List Word} :
    (verbatim words).IsTame ↔ ∀ piece ∈ words.flatMap Word.fillings, piece.IsTame :=
  Iff.rfl

@[simp]
theorem isTame_ite {condition : Prop} [Decidable condition] {first second : Statement} :
    Statement.IsTame (if condition then first else second) ↔
      (condition → first.IsTame) ∧ (¬condition → second.IsTame) := by
  by_cases h : condition <;> simp [h]

end Statement

namespace Piece

@[simp]
theorem isTame_text {s : String} : (Piece.word (.text s)).IsTame ↔ Neutral s :=
  Iff.rfl

@[simp]
theorem isTame_name {s : String} : (Piece.name s).IsTame ↔ Neutral s :=
  Iff.rfl

@[simp]
theorem isTame_constant {s : String} : (Piece.word (.constant s)).IsTame ↔ Neutral s :=
  Iff.rfl

@[simp]
theorem isTame_cls (c : ClassName) : (Piece.cls c).IsTame :=
  trivial

@[simp]
theorem isTame_type (t : JavaType) : (Piece.type t).IsTame :=
  trivial

end Piece

end ValueBuilder
