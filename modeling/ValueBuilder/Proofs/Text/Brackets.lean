import Mathlib.Algebra.BigOperators.Group.List.Basic
import Mathlib.Algebra.Group.Nat.Even
import ValueBuilder.Proofs.Text.Parts

/-!
# Brackets and quotes in texts

A text is well bracketed if no prefix of it closes more than it opens, if all that it opens is
closed in the end, and if each of its lines has an even number of quotes.

Texts are judged part by part.  What a part does to a kind of bracket is its imbalance: it closes so
many brackets that stand open before it, and leaves so many open.  Imbalances of parts in a row are
multiplied, and a text is balanced if the product is one.

* `imbalance_append`: the imbalance of two parts is the product.  `imbalance_eq_one` is what it is
  good for.
* `evenQuotes_append` and `even_of_evenQuotes` are about quotes.
* `Effect` is all of it for a line, and `wellBracketed_of_effect` for a text that is made of lines.
* `Neutral` parts have no effect, wherever they stand.
-/

namespace ValueBuilder

/-! ## Specification -/

/-- Whether brackets of a kind are closed after they were opened, and all of them. -/
structure Balanced (opening closing : Char) (cs : List Char) : Prop where
  ordered : ∀ before, before <+: cs → before.count closing ≤ before.count opening
  closed : cs.count closing = cs.count opening

/-- Whether the braces and the parentheses of a text are balanced, and the quotes in each line
even. -/
structure WellBracketed (text : String) : Prop where
  braces : Balanced '\x7b' '\x7d' text.toList
  parens : Balanced '(' ')' text.toList
  quotes : ∀ line ∈ parts '\n' text, Even (line.toList.count '"')

/-! ## Imbalances -/

/-- How many brackets a text closes that were opened before it, and how many it leaves open. -/
@[ext]
structure Imbalance where
  closed : Nat
  opened : Nat
  deriving Repr, DecidableEq

namespace Imbalance

instance : One Imbalance := ⟨⟨0, 0⟩⟩

/-- What is left open by the first text is closed by the second one, as far as it goes. -/
instance : Mul Imbalance :=
  ⟨fun a b => ⟨a.closed + (b.closed - a.opened), b.opened + (a.opened - b.closed)⟩⟩

@[simp]
theorem closed_one : (1 : Imbalance).closed = 0 :=
  rfl

@[simp]
theorem opened_one : (1 : Imbalance).opened = 0 :=
  rfl

@[simp]
theorem closed_mul (a b : Imbalance) : (a * b).closed = a.closed + (b.closed - a.opened) :=
  rfl

@[simp]
theorem opened_mul (a b : Imbalance) : (a * b).opened = b.opened + (a.opened - b.closed) :=
  rfl

instance : Monoid Imbalance where
  mul_assoc a b c := by ext <;> simp <;> omega
  one_mul a := by ext <;> simp
  mul_one a := by ext <;> simp

end Imbalance

/-- The imbalance of a text. -/
def imbalance (opening closing : Char) : List Char → Imbalance
  | [] => 1
  | c :: cs =>
    if c = opening then ⟨0, 1⟩ * imbalance opening closing cs
    else if c = closing then ⟨1, 0⟩ * imbalance opening closing cs
    else imbalance opening closing cs

section Imbalance

variable {opening closing : Char} {cs ds : List Char}

theorem imbalance_append (cs ds : List Char) :
    imbalance opening closing (cs ++ ds) =
      imbalance opening closing cs * imbalance opening closing ds := by
  induction cs with
  | nil => rw [List.nil_append, imbalance, one_mul]
  | cons c cs ih =>
    rw [List.cons_append, imbalance, imbalance, ih]
    split_ifs <;> simp only [mul_assoc]

/-- Brackets are counted on both sides of the balance. -/
theorem imbalance_count (hne : opening ≠ closing) (cs : List Char) :
    (imbalance opening closing cs).closed + cs.count opening =
      (imbalance opening closing cs).opened + cs.count closing := by
  induction cs with
  | nil => rfl
  | cons c cs ih =>
    rw [imbalance]
    split_ifs with hopening hclosing
    · subst hopening
      rw [List.count_cons_self, List.count_cons_of_ne hne]
      simp
      omega
    · subst hclosing
      rw [List.count_cons_self, List.count_cons_of_ne hne.symm]
      simp
      omega
    · rw [List.count_cons_of_ne hopening, List.count_cons_of_ne hclosing]
      exact ih

/-- A text without an imbalance is balanced. -/
theorem balanced_of_imbalance (hne : opening ≠ closing) (h : imbalance opening closing cs = 1) :
    Balanced opening closing cs := by
  constructor
  case ordered =>
    rintro before ⟨behind, rfl⟩
    have hproduct := congrArg Imbalance.closed (imbalance_append before behind ▸ h)
    rw [Imbalance.closed_mul, Imbalance.closed_one] at hproduct
    have hcount := imbalance_count hne before
    omega
  case closed =>
    have hcount := imbalance_count hne cs
    rw [h, Imbalance.closed_one, Imbalance.opened_one] at hcount
    omega

theorem imbalance_of_notMem (hopening : opening ∉ cs) (hclosing : closing ∉ cs) :
    imbalance opening closing cs = 1 := by
  induction cs with
  | nil => rfl
  | cons c cs ih =>
    rw [List.mem_cons, not_or] at hopening hclosing
    rw [imbalance, if_neg (Ne.symm hopening.1), if_neg (Ne.symm hclosing.1),
      ih hopening.2 hclosing.2]

end Imbalance

/-! ## Quotes -/

/-- Whether the quotes are even in each line, if those before the text are so or not. -/
def evenQuotes (odd : Bool) : List Char → Bool
  | [] => !odd
  | c :: cs =>
    if c = '"' then evenQuotes (!odd) cs
    else if c = '\n' then !odd && evenQuotes false cs
    else evenQuotes odd cs

theorem evenQuotes_append (odd : Bool) (cs ds : List Char) :
    evenQuotes odd (cs ++ '\n' :: ds) = (evenQuotes odd cs && evenQuotes false ds) := by
  induction cs generalizing odd with
  | nil => rfl
  | cons c cs ih =>
    rw [List.cons_append, evenQuotes, evenQuotes]
    split_ifs
    · exact ih _
    · rw [ih, Bool.and_assoc]
    · exact ih _

theorem evenQuotes_append_of_notMem {cs : List Char} (hquote : '"' ∉ cs) (hline : '\n' ∉ cs)
    (odd : Bool) (ds : List Char) : evenQuotes odd (cs ++ ds) = evenQuotes odd ds := by
  induction cs with
  | nil => rfl
  | cons c cs ih =>
    rw [List.mem_cons, not_or] at hquote hline
    rw [List.cons_append, evenQuotes, if_neg (Ne.symm hquote.1), if_neg (Ne.symm hline.1),
      ih hquote.2 hline.2]

/-- The first line continues what stands before the text; the others stand alone. -/
theorem even_of_evenQuotes {odd : Bool} {cs : List Char} (h : evenQuotes odd cs = true) :
    (Even ((splitBy '\n' cs).1.count '"') ↔ odd = false) ∧
      ∀ line ∈ (splitBy '\n' cs).2, Even (line.count '"') := by
  induction cs generalizing odd with
  | nil => simpa [splitBy, evenQuotes] using h
  | cons c cs ih =>
    rw [evenQuotes] at h
    rw [splitBy]
    dsimp only
    split_ifs at h with hquote hline
    · subst hquote
      obtain ⟨hfirst, hothers⟩ := ih h
      refine ⟨?_, hothers⟩
      rw [if_neg (by decide), List.count_cons_self, Nat.even_add_one, hfirst]
      simp
    · subst hline
      obtain ⟨hodd, hrest⟩ := (Bool.and_eq_true _ _).mp h
      obtain ⟨hfirst, hothers⟩ := ih hrest
      rw [if_pos (by decide)]
      exact ⟨by simpa using hodd, List.forall_mem_cons.2 ⟨hfirst.2 rfl, hothers⟩⟩
    · obtain ⟨hfirst, hothers⟩ := ih h
      rw [if_neg (by simpa using hline), List.count_cons_of_ne hquote]
      exact ⟨hfirst, hothers⟩

/-! ## Lines -/

/-- What a line does to brackets, and whether its quotes are even. -/
@[ext]
structure Effect where
  braces : Imbalance
  parens : Imbalance
  quotes : Bool
  deriving Repr, DecidableEq

namespace Effect

instance : One Effect := ⟨⟨1, 1, true⟩⟩

instance : Mul Effect :=
  ⟨fun a b => ⟨a.braces * b.braces, a.parens * b.parens, a.quotes && b.quotes⟩⟩

instance : Monoid Effect where
  mul_assoc a b c := Effect.ext (mul_assoc _ _ _) (mul_assoc _ _ _) (Bool.and_assoc _ _ _)
  one_mul a := Effect.ext (one_mul _) (one_mul _) (Bool.true_and _)
  mul_one a := Effect.ext (mul_one _) (mul_one _) (Bool.and_true _)

/-- The effect of a text. -/
def ofChars (cs : List Char) : Effect :=
  ⟨imbalance '\x7b' '\x7d' cs, imbalance '(' ')' cs, evenQuotes false cs⟩

/-- The effect of a line is that of what stands before its end. -/
theorem ofChars_append (cs ds : List Char) :
    ofChars (cs ++ '\n' :: ds) = ofChars cs * ofChars ds := by
  have hline (opening closing : Char) (hopening : '\n' ≠ opening) (hclosing : '\n' ≠ closing) :
      imbalance opening closing ('\n' :: ds) = imbalance opening closing ds := by
    rw [imbalance, if_neg hopening, if_neg hclosing]
  refine Effect.ext ?_ ?_ (evenQuotes_append false cs ds)
  · exact (imbalance_append cs _).trans
      (congrArg _ (hline '\x7b' '\x7d' (by decide) (by decide)))
  · exact (imbalance_append cs _).trans (congrArg _ (hline '(' ')' (by decide) (by decide)))

end Effect

/-- A text without an effect is well bracketed. -/
theorem wellBracketed_of_effect {text : String} (h : Effect.ofChars text.toList = 1) :
    WellBracketed text := by
  constructor
  case braces => exact balanced_of_imbalance (by decide) (congrArg Effect.braces h)
  case parens => exact balanced_of_imbalance (by decide) (congrArg Effect.parens h)
  case quotes =>
    obtain ⟨hfirst, hothers⟩ := even_of_evenQuotes (congrArg Effect.quotes h)
    have hlines : ∀ cs ∈ (splitBy '\n' text.toList).1 :: (splitBy '\n' text.toList).2,
        Even (cs.count '"') := List.forall_mem_cons.2 ⟨hfirst.2 rfl, hothers⟩
    intro line hline
    obtain ⟨cs, hcs, rfl⟩ := List.mem_map.1 hline
    rw [String.toList_ofList]
    exact hlines cs hcs

/-! ## Parts without an effect -/

/-- The characters that matter. -/
def marks : List Char :=
  ['\x7b', '\x7d', '(', ')', '"', '\n']

/-- Whether a text has none of the characters that matter. -/
def Plain (text : String) : Prop :=
  ∀ c ∈ text.toList, c ∉ marks

-- Another instance would try all characters there are.
instance (text : String) : Decidable (Plain text) :=
  List.decidableBAll (· ∉ marks) text.toList

/-- Whether a part of a line has no effect, whatever stands around it. -/
structure Neutral (text : String) : Prop where
  braces : imbalance '\x7b' '\x7d' text.toList = 1
  parens : imbalance '(' ')' text.toList = 1
  quotes : ∀ odd ds, evenQuotes odd (text.toList ++ ds) = evenQuotes odd ds

/-- The characters of a literal are found by unification. -/
theorem Plain.of_ofList {text : String} {cs : List Char} (hchars : text = String.ofList cs)
    (h : cs.all (· ∉ marks) = true) : Plain text := by
  rw [Plain, hchars, String.toList_ofList]
  simpa using h

theorem Plain.append {first second : String} (h : Plain first) (h' : Plain second) :
    Plain (first ++ second) := by
  intro c hc
  rw [String.toList_append, List.mem_append] at hc
  exact hc.elim (h c) (h' c)

/-- Plain texts with a plain one between them. -/
theorem Plain.intercalate {between : String} (hbetween : Plain between) {texts : List String}
    (h : ∀ text ∈ texts, Plain text) : Plain (between.intercalate texts) := by
  induction texts with
  | nil => exact fun _ hc => absurd hc List.not_mem_nil
  | cons first texts ih =>
    obtain ⟨hfirst, htexts⟩ := List.forall_mem_cons.1 h
    cases texts with
    | nil => simpa using hfirst
    | cons second texts =>
      rw [String.intercalate_cons_cons]
      exact (hfirst.append hbetween).append (ih htexts)

theorem Plain.of_infix {part text : String} (h : Plain text)
    (hpart : part.toList <:+: text.toList) : Plain part :=
  fun c hc => h c (hpart.mem hc)

theorem Plain.neutral {text : String} (h : Plain text) : Neutral text := by
  have hfree (c : Char) (hc : c ∈ marks) : c ∉ text.toList := fun hmem => h c hmem hc
  constructor
  case braces => exact imbalance_of_notMem (hfree _ (by decide)) (hfree _ (by decide))
  case parens => exact imbalance_of_notMem (hfree _ (by decide)) (hfree _ (by decide))
  case quotes => exact evenQuotes_append_of_notMem (hfree _ (by decide)) (hfree _ (by decide))

theorem Neutral.append {first second : String} (h : Neutral first) (h' : Neutral second) :
    Neutral (first ++ second) := by
  constructor
  case braces => rw [String.toList_append, imbalance_append, h.braces, h'.braces, one_mul]
  case parens => rw [String.toList_append, imbalance_append, h.parens, h'.parens, one_mul]
  case quotes =>
    intro odd ds
    rw [String.toList_append, List.append_assoc, h.quotes, h'.quotes]

end ValueBuilder
