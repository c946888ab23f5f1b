import ValueBuilder.Proofs.Java.ClassNames
import ValueBuilder.Proofs.Java.TypeParsing

/-!
# Printing a type undoes parsing it

The text of a parsed type is a type expression for that type, wherever it is read.  The name of
each class is printed in full, and a full name is read without a look at the package or the
imports: its first segment has no capital.
-/

namespace ValueBuilder.Java.Grammar

/-! ## Full names -/

/-- The class is written as a dotted name that every scope reads as that class. -/
structure Spells (c : ClassName) (first : String) (others : List String) : Prop where
  text : c.qualifiedName = ".".intercalate (first :: others)
  identifiers : ∀ s ∈ first :: others, isIdentifier s = true
  lower : startsWithCapital first = false
  split : ClassName.ofSegments first others = c
  namesClass : NamesClass first others

theorem Spells.resolve {c : ClassName} {first : String} {others : List String}
    (h : Spells c first others) (scope : TypeScope) : scope.resolve first others = c := by
  rw [TypeScope.resolve, h.lower, if_neg (by simp), h.split]

/-- A class with a capital below a package is spelled by its package and its simple names. -/
theorem spells_of_isPackage {c : ClassName} (hpackage : IsPackage c.package)
    (hcapital : startsWithCapital c.outermost = true)
    (hnames : ∀ s ∈ c.names, isIdentifier s = true) : ∃ first others, Spells c first others := by
  obtain ⟨segments, hne, hsegments, hpackage⟩ := hpackage
  obtain ⟨first, rest, rfl⟩ := List.exists_cons_of_ne_nil hne
  refine ⟨first, rest ++ c.names, ?_, ?_, (hsegments first (by simp)).2, ?_, ?_⟩
  · exact ClassName.qualifiedName_eq_intercalate hpackage
      fun s hs => ne_empty_of_isIdentifier (hsegments s hs).1
  · intro s hs
    rw [← List.cons_append, List.mem_append] at hs
    exact hs.elim (fun hs => (hsegments s hs).1) (hnames s)
  · have hlower : ∀ s ∈ first :: rest, startsWithCapital s = false := fun s hs => (hsegments s hs).2
    have hsplit : first :: (rest ++ c.names) = (first :: rest) ++ c.outermost :: c.inner := rfl
    rw [ClassName.ofSegments, ClassName.ofSegmentsBelow_eq hsplit hlower hcapital,
      List.nil_append, ← hpackage]
  · intro hothers
    simp [ClassName.names] at hothers

/-! ## Classes of a scope -/

/-- The promises about the scope in which a type is read first. -/
structure Qualifies (scope : TypeScope) : Prop where
  package : IsPackage scope.package
  imports : ∀ c ∈ scope.imports, (∃ text, ClassName.parse text = .ok c) ∧ c.package ≠ ""

/-- An imported class that is known by a capital name. -/
theorem isPackage_of_parse {text : String} {c : ClassName} (h : ClassName.parse text = .ok c)
    (hpackage : c.package ≠ "") (hcapital : startsWithCapital c.simpleName = true) :
    IsPackage c.package ∧ startsWithCapital c.outermost = true ∧
      ∀ s ∈ c.names, isIdentifier s = true := by
  obtain ⟨first, rest, hidentifiers, rfl⟩ := ClassName.exists_ofSegments_of_parse h
  obtain ⟨lower, hsegments, hjoined, hlower, hclass⟩ := ClassName.ofSegmentsBelow_split [] first rest
  rw [← ClassName.ofSegments] at *
  set c := ClassName.ofSegments first rest
  rw [hsegments] at hidentifiers
  refine ⟨⟨lower, ?_, fun s hs => ⟨hidentifiers s (by simp [hs]), hlower s hs⟩, hjoined⟩, ?_, ?_⟩
  · rintro rfl
    simp at hjoined
    exact hpackage hjoined
  · rcases hclass with hclass | hinner
    · exact hclass
    · simpa [ClassName.simpleName, hinner] using hcapital
  · exact fun s hs => hidentifiers s (by simp [hs])

theorem isPackage_languagePackage : IsPackage languagePackage := by
  refine ⟨["java", "lang"], by simp, ?_, by decide⟩
  simp only [List.forall_mem_cons, IsPackageSegment]
  decide

/-- A capital name denotes a class that is spelled by its package. -/
theorem lookup_spec {scope : TypeScope} {first : String} (hscope : Qualifies scope)
    (hidentifier : isIdentifier first = true) (hcapital : startsWithCapital first = true) :
    IsPackage (scope.lookup first).package ∧
      startsWithCapital (scope.lookup first).outermost = true ∧
        ∀ s ∈ (scope.lookup first).names, isIdentifier s = true := by
  have htop {package : String} (hpackage : IsPackage package) :
      IsPackage (ClassName.topLevel package first).package ∧
        startsWithCapital (ClassName.topLevel package first).outermost = true ∧
          ∀ s ∈ (ClassName.topLevel package first).names, isIdentifier s = true :=
    ⟨hpackage, hcapital, by simpa [ClassName.topLevel, ClassName.names] using hidentifier⟩
  rw [TypeScope.lookup]
  split
  · next imported hfind =>
    obtain ⟨⟨text, htext⟩, hpackage⟩ :=
      hscope.imports imported (List.mem_reverse.1 (List.mem_of_find?_eq_some hfind))
    have hname := List.find?_some hfind
    simp only [beq_iff_eq] at hname
    exact isPackage_of_parse htext hpackage (hname ▸ hcapital)
  · split
    · exact htop isPackage_languagePackage
    · exact htop hscope.package

theorem foldl_nested (c : ClassName) (others : List String) :
    others.foldl ClassName.nested c = ⟨c.package, c.outermost, c.inner ++ others⟩ := by
  induction others generalizing c with
  | nil => simp
  | cons next others ih => simp [ih, ClassName.nested]

/-- Every class that a scope makes of a class name is spelled by a dotted name. -/
theorem spells_resolve {scope : TypeScope} {first : String} {others : List String}
    (hscope : Qualifies scope) (hidentifiers : ∀ s ∈ first :: others, isIdentifier s = true)
    (hclass : NamesClass first others) :
    ∃ first' others', Spells (scope.resolve first others) first' others' := by
  obtain ⟨hfirst, hothers⟩ := List.forall_mem_cons.1 hidentifiers
  rw [TypeScope.resolve]
  split
  · next hcapital =>
    obtain ⟨hpackage, houtermost, hnames⟩ := lookup_spec hscope hfirst hcapital
    rw [foldl_nested]
    refine spells_of_isPackage hpackage houtermost fun s hs => ?_
    rw [ClassName.names, ← List.cons_append, List.mem_append] at hs
    exact hs.elim (hnames s) (hothers s)
  · next hlower =>
    have hne : ∀ s ∈ first :: others, s ≠ "" := fun s hs => ne_empty_of_isIdentifier (hidentifiers s hs)
    exact ⟨first, others, ClassName.qualifiedName_ofSegments hne, hidentifiers, by simpa using hlower,
      rfl, hclass⟩

/-! ## Printed names -/

/-- The next character does not continue a word. -/
def EndsWord (tail : List Char) : Prop :=
  ∀ c more, tail = c :: more → isIdentifierPart c = false

theorem endsWord_cons {c : Char} {tail : List Char} (hc : isIdentifierPart c = false) :
    EndsWord (c :: tail) := by
  rintro d more ⟨⟩
  exact hc

theorem word_append {word : String} {tail : List Char} (hword : isIdentifier word = true)
    (htail : EndsWord tail) : Word (word.toList ++ tail) word tail :=
  ⟨rfl, hword, htail⟩

theorem word_space {word : String} (hword : isIdentifier word = true) (body : List Char) :
    Word (word.toList ++ ' ' :: body) word (' ' :: body) :=
  word_append hword (endsWord_cons (by decide))

theorem name_append {first : String} {others : List String} {tail : List Char}
    (hidentifiers : ∀ s ∈ first :: others, isIdentifier s = true) (htail : EndsWord tail) :
    Name ((".".intercalate (first :: others)).toList ++ tail) first others tail := by
  obtain ⟨hfirst, hothers⟩ := List.forall_mem_cons.1 hidentifiers
  induction others generalizing first with
  | nil => simpa using Name.last (word_append hfirst htail)
  | cons next others ih =>
    obtain ⟨hnext, hrest⟩ := List.forall_mem_cons.1 hothers
    have hmore := ih hothers hnext hrest
    have hdot : EndsWord ('.' :: ((".".intercalate (next :: others)).toList ++ tail)) :=
      endsWord_cons (by decide)
    simpa [String.intercalate_cons_cons] using Name.dotted (word_append hfirst hdot) hmore

/-! ## Printed types -/

section Printing

variable {scope other : TypeScope} {cs rest tail : List Char} {t u : JavaType}

theorem Blanks.refl (cs : List Char) : Blanks cs cs :=
  ⟨[], by simp, rfl⟩

theorem blanks_space (cs : List Char) : Blanks (' ' :: cs) cs :=
  ⟨[' '], List.forall_mem_singleton.2 (by decide), rfl⟩

theorem mark_cons (c : Char) (cs : List Char) : Mark c (c :: cs) cs :=
  Blanks.refl (c :: cs)

theorem Suffixes.snoc (h : Suffixes t cs u ('[' :: ']' :: tail)) :
    Suffixes t cs (.array u) tail := by
  generalize hrest : '[' :: ']' :: tail = rest at h
  induction h with
  | none => exact hrest ▸ .array (mark_cons '[' _) (mark_cons ']' _) .none
  | array hopen hclose _ ih => exact .array hopen hclose (ih hrest)

theorem TypeText.snoc (h : TypeText scope cs t ('[' :: ']' :: tail)) :
    TypeText scope cs (.array t) tail := by
  cases h with
  | primitive hblanks hname hsuffixes => exact .primitive hblanks hname hsuffixes.snoc
  | declared hblanks hname hclass hargs hsuffixes =>
    exact .declared hblanks hname hclass hargs hsuffixes.snoc

/-- Whether the type's text, before whatever ends a word, is read as the type in a scope. -/
def Prints (scope : TypeScope) (t : JavaType) : Prop :=
  ∀ tail, EndsWord tail → TypeText scope (t.display.toList ++ tail) t tail

theorem Prints.array (h : Prints scope t) : Prints scope (.array t) := by
  intro tail _
  have hsuffix := h ('[' :: ']' :: tail) (endsWord_cons (by decide))
  simpa [JavaType.display, JavaType.render] using hsuffix.snoc

theorem Suffixes.prints (h : Suffixes t cs u rest) (ht : Prints other t) : Prints other u := by
  induction h with
  | none => exact ht
  | array _ _ _ ih => exact ih ht.array

theorem prints_primitive (p : Primitive) : Prints scope (.primitive p) := by
  intro tail htail
  have hword : isIdentifier p.name = true := by cases p <;> decide
  simpa [JavaType.display, JavaType.render] using
    TypeText.primitive (Blanks.refl _) (.last (word_append hword htail)) .none

theorem TypeText.behind_blanks {body : List Char} (hblanks : Blanks cs body)
    (h : TypeText scope body t rest) : TypeText scope cs t rest := by
  cases h with
  | primitive hinner hname hsuffixes => exact .primitive (hblanks.trans hinner) hname hsuffixes
  | declared hinner hname hclass hargs hsuffixes =>
    exact .declared (hblanks.trans hinner) hname hclass hargs hsuffixes

theorem Argument.behind_blanks {body : List Char} (hblanks : Blanks cs body)
    (h : Argument scope body t rest) : Argument scope cs t rest := by
  cases h with
  | unbounded hmark hinner => exact .unbounded (hmark.behind_blanks hblanks) hinner
  | extending hmark hinner hkeyword hbound =>
    exact .extending (hmark.behind_blanks hblanks) hinner hkeyword hbound
  | superOf hmark hinner hkeyword hbound =>
    exact .superOf (hmark.behind_blanks hblanks) hinner hkeyword hbound
  | type htype hprimitive => exact .type (htype.behind_blanks hblanks) hprimitive

theorem arguments_endsWord (args : List JavaType) (htail : EndsWord tail) :
    EndsWord ((JavaType.renderArgs ClassName.qualifiedName args).toList ++ tail) := by
  cases args with
  | nil => simpa [JavaType.renderArgs] using htail
  | cons arg others => simpa [JavaType.renderArgs] using endsWord_cons (by decide)

theorem moreArguments_endsWord (args : List JavaType) (tail : List Char) :
    EndsWord ((JavaType.renderMore ClassName.qualifiedName args).toList ++ tail) := by
  cases args with
  | nil => simpa [JavaType.renderMore] using endsWord_cons (by decide)
  | cons arg others => simpa [JavaType.renderMore] using endsWord_cons (by decide)

mutual

theorem TypeText.prints (hscope : Qualifies scope) {cs rest : List Char} {t : JavaType}
    (h : TypeText scope cs t rest) : Prints other t := by
  match h with
  | .primitive _ _ hsuffixes => exact hsuffixes.prints (prints_primitive _)
  | @TypeText.declared _ _ _ _ _ _ _ _ args _ _ hname hclass hargs hsuffixes =>
    refine hsuffixes.prints fun tail htail => ?_
    obtain ⟨first, others, hspells⟩ := spells_resolve hscope hname.identifiers hclass
    have hname := name_append hspells.identifiers (arguments_endsWord args htail)
    have hargs := hargs.prints hscope tail
    have hdeclared := TypeText.declared (Blanks.refl _) hname hspells.namesClass hargs .none
    rw [hspells.resolve other, ← hspells.text] at hdeclared
    simpa [JavaType.display, JavaType.render] using hdeclared

theorem Arguments.prints (hscope : Qualifies scope) {cs rest : List Char} {args : List JavaType}
    (h : Arguments scope cs args rest) (tail : List Char) :
    Arguments other ((JavaType.renderArgs ClassName.qualifiedName args).toList ++ tail) args
      tail := by
  match h with
  | .none => simpa [JavaType.renderArgs] using Arguments.none
  | @Arguments.some _ _ _ _ _ _ others _ harg hmore =>
    have harg := harg.prints hscope (moreArguments_endsWord others tail)
    have hmore := hmore.prints hscope tail
    simpa [JavaType.renderArgs] using Arguments.some (mark_cons '<' _) harg hmore

theorem MoreArguments.prints (hscope : Qualifies scope) {cs rest : List Char}
    {args : List JavaType} (h : MoreArguments scope cs args rest) (tail : List Char) :
    MoreArguments other ((JavaType.renderMore ClassName.qualifiedName args).toList ++ tail) args
      tail := by
  match h with
  | .close _ => simpa [JavaType.renderMore] using MoreArguments.close (mark_cons '>' _)
  | @MoreArguments.comma _ _ _ _ _ _ others _ harg hmore =>
    have harg := harg.prints hscope (moreArguments_endsWord others tail)
    have hmore := hmore.prints hscope tail
    have harg := harg.behind_blanks (blanks_space _)
    simpa [JavaType.renderMore] using MoreArguments.comma (mark_cons ',' _) harg hmore

theorem Argument.prints (hscope : Qualifies scope) {cs rest tail : List Char} {t : JavaType}
    (h : Argument scope cs t rest) (htail : EndsWord tail) :
    Argument other ((t.render ClassName.qualifiedName).toList ++ tail) t tail := by
  match h with
  | .unbounded _ _ =>
    simpa [JavaType.render] using Argument.unbounded (mark_cons '?' _) (Blanks.refl _)
  | .extending _ _ _ hbound =>
    have hbound := (hbound.prints hscope htail).behind_blanks (blanks_space _)
    simpa [JavaType.render] using Argument.extending (mark_cons '?' _) (blanks_space _)
      (word_space (by decide) _) hbound
  | .superOf _ _ _ hbound =>
    have hbound := (hbound.prints hscope htail).behind_blanks (blanks_space _)
    simpa [JavaType.render] using Argument.superOf (mark_cons '?' _) (blanks_space _)
      (word_space (by decide) _) hbound
  | .type htype hprimitive => exact .type (htype.prints hscope tail htail) hprimitive

end

end Printing

/-! ## Whole texts -/

/-- The text of a type that was parsed in a scope parses to that type again, in every scope. -/
theorem parse_display {scope : TypeScope} {text : String} {t : JavaType}
    (hscope : Qualifies scope) (h : scope.parse text = .ok t) :
    scope.parse t.display = .ok t ∧ ∀ other : TypeScope, other.parse t.display = .ok t := by
  have hparse (other : TypeScope) : other.parse t.display = .ok t := by
    obtain ⟨rest, htype, -⟩ := parse_eq_ok_iff_denotes.1 h
    have hprints : Prints other t := htype.prints hscope
    have htype := hprints [] (by rintro c more ⟨⟩)
    exact parse_eq_ok_iff_denotes.2 ⟨[], by simpa using htype, by simp⟩
  exact ⟨hparse scope, hparse⟩

/-- A member class that is known by an import, below a class in lower case. -/
theorem parse_display_member :
    let scope : TypeScope := ⟨"com.example", [⟨"org.acme", "Outer", ["Inner"]⟩]⟩
    let member : JavaType := .declared ⟨"org.acme", "Outer", ["Inner"]⟩ []
    let t : JavaType := .declared ⟨"", "map", []⟩ [.superOf (.array member), .unbounded]
    Qualifies scope ∧ scope.parse "map <? super Inner[ ],\t? >" = .ok t ∧
      scope.parse t.display = .ok t ∧ ∀ other : TypeScope, other.parse t.display = .ok t := by
  intro scope member t
  have hpackage : IsPackage "com.example" := by
    refine ⟨["com", "example"], by simp, ?_, by decide⟩
    simp only [List.forall_mem_cons, IsPackageSegment]
    decide
  have himport : ClassName.parse "org.acme.Outer.Inner" = .ok ⟨"org.acme", "Outer", ["Inner"]⟩ := by
    rfl
  have hscope : Qualifies scope := ⟨hpackage, by simp [scope, ← himport]⟩
  have hclass (word : String) (hword : ∀ p : Primitive, word ≠ p.name) (hvoid : word ≠ "void") :
      NamesClass word [] := fun _ => ⟨hword, hvoid⟩
  let tail : List Char := [',', '\t', '?', ' ', '>']
  let inner : List Char := "Inner".toList ++ '[' :: ' ' :: ']' :: tail
  let arguments : List Char := ' ' :: '<' :: '?' :: ' ' :: ("super".toList ++ ' ' :: inner)
  have hmember : TypeText scope (' ' :: inner) (.array member) tail :=
    .declared (blanks_space _)
      (.last (word_append (by decide +kernel) (endsWord_cons (by decide))))
      (hclass "Inner" (by intro p; cases p <;> decide) (by decide)) .none
      (.array (mark_cons '[' _) (blanks_space _) .none)
  have hlast : MoreArguments scope tail [.unbounded] [] :=
    have htab : Mark '?' ['\t', '?', ' ', '>'] [' ', '>'] :=
      ⟨['\t'], List.forall_mem_singleton.2 (by decide), rfl⟩
    .comma (mark_cons ',' _) (.unbounded htab (blanks_space _)) (.close (mark_cons '>' _))
  have harguments : Arguments scope arguments [.superOf (.array member), .unbounded] [] :=
    .some (blanks_space _)
      (.superOf (mark_cons '?' _) (blanks_space _) (word_space (by decide +kernel) _)
        (.type hmember rfl)) hlast
  have htext : "map <? super Inner[ ],\t? >".toList = "map".toList ++ arguments := by decide
  have hdenotes : Denotes scope "map <? super Inner[ ],\t? >" t := by
    refine ⟨[], ?_, by simp⟩
    rw [htext]
    exact .declared (Blanks.refl _) (.last (word_space (by decide +kernel) _))
      (hclass "map" (by intro p; cases p <;> decide) (by decide)) harguments .none
  have hparse := parse_eq_ok_iff_denotes.2 hdenotes
  exact ⟨hscope, hparse, parse_display hscope hparse⟩

end ValueBuilder.Java.Grammar
