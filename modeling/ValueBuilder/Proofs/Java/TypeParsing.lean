import Mathlib.Data.List.TakeWhile
import ValueBuilder.Proofs.Java.TypeReading

/-!
# Parsing accepts exactly the grammar

* What is read is derived (`phrase_of_reads`), by recursion on the length of the text.
* What is derived is read (`reads_of_typeText`), by recursion on the derivation.  A derivation may
  stop where a reader would go on, so the rest has to begin with a mark that no reader takes
  (`Follows`).
* A derived type has the shape of a type: `TypeText.isType`.
-/

namespace ValueBuilder.Java.Grammar

/-! ## Blanks, marks and words -/

section Marks

variable {cs body rest inside : List Char} {c : Char}

theorem skipBlanks_eq_self (h : ∀ c more, rest = c :: more → Unicode.isBlank c = false) :
    skipBlanks rest = rest := by
  cases rest with
  | nil => rfl
  | cons c more => simp [skipBlanks, h c more rfl]

theorem blanks_skipBlanks (cs : List Char) : Blanks cs (skipBlanks cs) :=
  ⟨cs.takeWhile Unicode.isBlank, List.all_eq_true.1 List.all_takeWhile,
    List.takeWhile_append_dropWhile.symm⟩

theorem Blanks.skipBlanks_eq (h : Blanks cs rest) : skipBlanks cs = skipBlanks rest := by
  obtain ⟨blanks, hblanks, rfl⟩ := h
  exact List.dropWhile_append_of_pos hblanks

theorem Blanks.trans (h : Blanks cs body) (hbody : Blanks body rest) : Blanks cs rest := by
  obtain ⟨first, hfirst, rfl⟩ := h
  obtain ⟨second, hsecond, rfl⟩ := hbody
  refine ⟨first ++ second, fun c hc => ?_, by simp⟩
  exact (List.mem_append.1 hc).elim (hfirst c) (hsecond c)

@[simp]
theorem skipBlanks_skipBlanks (cs : List Char) : skipBlanks (skipBlanks cs) = skipBlanks cs :=
  (blanks_skipBlanks cs).skipBlanks_eq.symm

theorem mark_iff (hc : Unicode.isBlank c = false) :
    Mark c cs rest ↔ dropChar? c (skipBlanks cs) = some rest := by
  rw [dropChar?_eq_some_iff]
  constructor
  · intro h
    rw [Blanks.skipBlanks_eq h, skipBlanks_eq_self]
    rintro d more ⟨⟩
    exact hc
  · intro h
    have hblanks := blanks_skipBlanks cs
    rwa [h] at hblanks

theorem Mark.behind_blanks (hblanks : Blanks cs body) (h : Mark c body rest) : Mark c cs rest :=
  Blanks.trans hblanks h

theorem word_iff_reads {input : List Char} {word : String} :
    Word cs word rest ↔ Reads (readIdentifier input cs) word rest := by
  rw [reads_readIdentifier_iff]
  constructor
  · rintro ⟨rfl, hword, hmaximal⟩
    have hall : ∀ c ∈ word.toList, isIdentifierPart c = true :=
      List.all_eq_true.1 (all_isIdentifierPart_of_spellsIdentifier hword)
    have hrest : rest.takeWhile isIdentifierPart = [] ∧ rest.dropWhile isIdentifierPart = rest := by
      cases rest with
      | nil => simp
      | cons c more => simp [hmaximal c more rfl]
    rw [List.takeWhile_append_of_pos hall, List.dropWhile_append_of_pos hall, hrest.1, hrest.2]
    simpa [isIdentifier] using hword
  · rintro ⟨hword, rfl, rfl⟩
    refine ⟨by simp, by simpa [isIdentifier] using hword, fun c more h => ?_⟩
    have hhead := List.head?_dropWhile_not isIdentifierPart cs
    simpa [h] using hhead

theorem Word.head {word : String} (h : Word cs word rest) :
    ∃ c letters, word.toList = c :: letters ∧ cs = c :: (letters ++ rest) ∧
      isIdentifierPart c = true := by
  obtain ⟨rfl, hword, -⟩ := h
  cases hletters : word.toList with
  | nil => simp [isIdentifier, hletters, spellsIdentifier] at hword
  | cons c letters =>
    simp only [isIdentifier, hletters, spellsIdentifier, Bool.and_eq_true] at hword
    exact ⟨c, letters, rfl, rfl, isIdentifierPart_of_isIdentifierStart hword.1⟩

theorem Word.skipBlanks_eq {word : String} (h : Word cs word rest) : skipBlanks cs = cs := by
  obtain ⟨c, letters, -, rfl, hc⟩ := h.head
  refine skipBlanks_eq_self ?_
  rintro d _ ⟨⟩
  exact isBlank_of_isIdentifierPart hc

theorem Name.word {first : String} {others : List String} (h : Name cs first others rest) :
    ∃ behind, Word cs first behind := by
  cases h with
  | last hword => exact ⟨rest, hword⟩
  | dotted hword _ => exact ⟨_, hword⟩

end Marks

theorem Name.identifiers {cs rest : List Char} {first : String} {others : List String}
    (h : Name cs first others rest) : ∀ s ∈ first :: others, isIdentifier s = true := by
  induction h with
  | last hword => simpa using hword.identifier
  | dotted hword _ ih => exact List.forall_mem_cons.2 ⟨hword.identifier, ih⟩

/-! ## What is read is derived -/

theorem name_of_reads {input cs rest : List Char} {name : String × List String}
    (h : Reads (readDottedName input cs) name rest) : Name cs name.1 name.2 rest := by
  obtain ⟨word, behind, hword, ⟨-, rfl, rfl⟩ | ⟨more, hdot, others, last, hothers, rfl, rfl⟩⟩ :=
    reads_readDottedName_iff.1 h
  · exact .last (word_iff_reads.2 hword)
  · obtain rfl := dropChar?_eq_some_iff.1 hdot
    have := hword.length_lt
    have : more.length < cs.length := by simp at this; omega
    exact .dotted (word_iff_reads.2 hword) (name_of_reads hothers)
termination_by cs.length

theorem suffixes_of_reads {input cs rest : List Char} {t u : JavaType}
    (h : Reads (TypeScope.readSuffixes input t cs) u rest) :
    ∃ body, Suffixes t cs u body ∧ skipBlanks body = rest := by
  obtain ⟨-, rfl, rfl⟩ | ⟨inside, hopen, closed, more, hclose, v, last, hmore, rfl, rfl⟩ :=
    TypeScope.reads_readSuffixes_iff.1 h
  · exact ⟨cs, .none, rfl⟩
  · have hshorter := length_lt_of_dropChar?_skipBlanks hopen
    have := hclose.length_lt
    obtain ⟨body, hsuffixes, hbody⟩ := suffixes_of_reads hmore
    have hclose := (mark_iff (by decide)).2 (reads_readChar_iff.1 hclose)
    exact ⟨body, .array ((mark_iff (by decide)).2 hopen) hclose hsuffixes, hbody⟩
termination_by cs.length

theorem Suffixes.isPrimitive_eq_false {cs rest : List Char} {t u : JavaType}
    (h : Suffixes t cs u rest) (ht : t.isPrimitive = false) : u.isPrimitive = false := by
  induction h with
  | none => exact ht
  | array _ _ _ ih => exact ih rfl

/-- Suffixes behind skipped blanks are suffixes behind those blanks. -/
theorem Suffixes.behind_blanks {cs more body : List Char} {t u : JavaType}
    (hblanks : Blanks cs more) (h : Suffixes t more u body) :
    ∃ body', Suffixes t cs u body' ∧ skipBlanks body' = skipBlanks body := by
  cases h with
  | none => exact ⟨cs, .none, hblanks.skipBlanks_eq⟩
  | array hopen hclose hmore => exact ⟨body, .array (hopen.behind_blanks hblanks) hclose hmore, rfl⟩

theorem MoreArguments.behind_blanks {scope : TypeScope} {cs more rest : List Char}
    {args : List JavaType} (hblanks : Blanks cs more) (h : MoreArguments scope more args rest) :
    MoreArguments scope cs args rest := by
  cases h with
  | close hclose => exact .close (hclose.behind_blanks hblanks)
  | comma hcomma harg hmore => exact .comma (hcomma.behind_blanks hblanks) harg hmore

/-- What a reader of types reads: a type, or also a wildcard where a type argument may stand. -/
def Phrase (scope : TypeScope) (inArguments : Bool) (cs : List Char) (t : JavaType)
    (rest : List Char) : Prop :=
  if inArguments then Argument scope cs t rest else TypeText scope cs t rest

theorem phrase_of_typeText {scope : TypeScope} {inArguments : Bool} {cs rest : List Char}
    {t : JavaType} (h : TypeText scope cs t rest)
    (hprimitive : (inArguments && t.isPrimitive) = false) :
    Phrase scope inArguments cs t rest := by
  cases inArguments with
  | false => exact h
  | true => exact .type h hprimitive

section Soundness

variable {scope : TypeScope} {input : List Char}

theorem namesClass_of_reads {first : String} {others : List String}
    (hprimitive : TypeScope.primitiveNamed? first others = none)
    (hvoid : TypeScope.namesVoid first others = false) : NamesClass first others := by
  rintro rfl
  refine ⟨fun p hp => ?_, by simpa [TypeScope.namesVoid] using hvoid⟩
  simp [TypeScope.primitiveNamed?, hp, Primitive.ofName?_name] at hprimitive

theorem name_of_primitiveNamed? {first : String} {others : List String} {p : Primitive}
    (h : TypeScope.primitiveNamed? first others = some p) : first = p.name ∧ others = [] := by
  cases others with
  | cons _ _ => simp [TypeScope.primitiveNamed?] at h
  | nil =>
    have hname := List.find?_some h
    exact ⟨(beq_iff_eq.1 hname).symm, rfl⟩

mutual

theorem phrase_of_reads {inArguments : Bool} {cs rest : List Char} {t : JavaType}
    (h : Reads (TypeScope.readType scope input inArguments cs) t rest) :
    ∃ body, Phrase scope inArguments cs t body ∧ skipBlanks body = rest := by
  obtain ⟨marked, hmark, _, _, hwildcard, rfl, rfl⟩ | ⟨-, name, more, hname, hread⟩ :=
    TypeScope.reads_readType_iff.1 h
  · have hshorter := TypeScope.length_lt_of_dropMark?_skipBlanks hmark
    rw [TypeScope.dropMark?] at hmark
    split at hmark
    · next hin =>
      subst hin
      exact argument_of_reads ((mark_iff (by decide)).2 hmark) hwildcard
    · simp at hmark
  · have hblanks := blanks_skipBlanks cs
    have hshorter := hname.length_lt
    have := length_skipBlanks_le cs
    have hname := name_of_reads hname
    obtain ⟨p, hp, _, _, hsuffixes, hbare, rfl, rfl⟩ |
      ⟨hp, hvoid, args, behind, hargs, _, _, hsuffixes, rfl, rfl⟩ := hread
    · obtain ⟨hfirst, hothers⟩ := name_of_primitiveNamed? hp
      rw [hfirst, hothers] at hname
      obtain ⟨body, hsuffixes, hbody⟩ := suffixes_of_reads hsuffixes
      exact ⟨body, phrase_of_typeText (.primitive hblanks hname hsuffixes) hbare, hbody⟩
    · obtain ⟨after, hargs, hafter⟩ := arguments_of_reads hargs
      obtain ⟨body, hsuffixes, hbody⟩ := suffixes_of_reads hsuffixes
      obtain ⟨body', hsuffixes, hbody'⟩ := hsuffixes.behind_blanks hafter
      have htype := TypeText.declared hblanks hname (namesClass_of_reads hp hvoid) hargs hsuffixes
      have hbare := hsuffixes.isPrimitive_eq_false rfl
      exact ⟨body', phrase_of_typeText htype (by simp [hbare]), hbody'.trans hbody⟩
termination_by cs.length

theorem argument_of_reads {outer cs rest : List Char} {t : JavaType} (hmark : Mark '?' outer cs)
    (h : Reads (TypeScope.readWildcard scope input cs) t rest) :
    ∃ body, Argument scope outer t body ∧ skipBlanks body = rest := by
  have hblanks := blanks_skipBlanks cs
  obtain ⟨-, rfl, rfl⟩ | ⟨-, keyword, behind, hkeyword, bound, _, hbound, wildcard, hw, rfl, rfl⟩ :=
    TypeScope.reads_readWildcard_iff.1 h
  · exact ⟨cs, .unbounded hmark (by exact ⟨[], by simp, rfl⟩), rfl⟩
  · have hshorter := hkeyword.length_lt
    have := length_skipBlanks_le cs
    obtain ⟨body, hbound, hbody⟩ := phrase_of_reads hbound
    have hkeyword := word_iff_reads.2 hkeyword
    simp only [TypeScope.boundedBy?, beq_iff_eq] at hw
    split at hw
    · next hextends =>
      obtain rfl := Option.some.inj hw
      exact ⟨body, .extending hmark hblanks (hextends ▸ hkeyword) hbound, hbody⟩
    · split at hw
      · next hsuper =>
        obtain rfl := Option.some.inj hw
        exact ⟨body, .superOf hmark hblanks (hsuper ▸ hkeyword) hbound, hbody⟩
      · simp at hw
termination_by cs.length

theorem arguments_of_reads {cs rest : List Char} {args : List JavaType}
    (h : Reads (TypeScope.readArguments scope input cs) args rest) :
    ∃ body, Arguments scope cs args body ∧ Blanks body rest := by
  obtain ⟨-, rfl, rfl⟩ | ⟨inside, hopen, -, arg, more, harg, others, _, hmore, rfl, rfl⟩ :=
    TypeScope.reads_readArguments_iff.1 h
  · exact ⟨cs, .none, blanks_skipBlanks cs⟩
  · have hinside := length_lt_of_dropChar?_skipBlanks hopen
    have hshorter := harg.length_lt
    obtain ⟨body, hphrase, rfl⟩ := phrase_of_reads harg
    have hmore := (moreArguments_of_reads hmore).behind_blanks (blanks_skipBlanks body)
    exact ⟨_, .some ((mark_iff (by decide)).2 hopen) hphrase hmore, [], by simp, rfl⟩
termination_by cs.length

theorem moreArguments_of_reads {cs rest : List Char} {args : List JavaType}
    (h : Reads (TypeScope.readMoreArguments scope input cs) args rest) :
    MoreArguments scope cs args rest := by
  obtain ⟨hclose, rfl⟩ | ⟨-, _, inside, hcomma, arg, more, harg, others, _, hmore, rfl, rfl⟩ :=
    TypeScope.reads_readMoreArguments_iff.1 h
  · exact .close ((mark_iff (by decide)).2 hclose)
  · have hinside := hcomma.length_lt
    have hshorter := harg.length_lt
    obtain ⟨body, hphrase, rfl⟩ := phrase_of_reads harg
    have hcomma := (mark_iff (by decide)).2 (reads_readChar_iff.1 hcomma)
    have hmore := (moreArguments_of_reads hmore).behind_blanks (blanks_skipBlanks body)
    exact .comma hcomma hphrase hmore
termination_by cs.length

end

end Soundness

/-! ## What is derived is read -/

/-- Whatever comes next, blanks apart, is one of the marks or the end. -/
def Follows (marks cs : List Char) : Prop :=
  ∀ c more, skipBlanks cs = c :: more → c ∈ marks

section Follows

variable {marks cs rest : List Char} {c : Char}

theorem Follows.mono {larger : List Char} (h : Follows marks cs) (hmarks : marks ⊆ larger) :
    Follows larger cs :=
  fun c more hcs => hmarks (h c more hcs)

theorem follows_of_mark (h : Mark c cs rest) (hc : Unicode.isBlank c = false) : Follows [c] cs := by
  rintro d more hcs
  rw [mark_iff hc, dropChar?_eq_some_iff, hcs] at h
  simp_all

theorem Follows.dropChar?_eq_none (h : Follows marks cs) (hc : c ∉ marks) :
    dropChar? c (skipBlanks cs) = none := by
  refine Option.eq_none_iff_forall_ne_some.2 fun more hmore => hc ?_
  exact h c more (dropChar?_eq_some_iff.1 hmore)

theorem Follows.ne_cons (h : Follows marks cs) (hc : c ∉ marks) (hblank : Unicode.isBlank c = false) :
    dropChar? c cs = none := by
  refine Option.eq_none_iff_forall_ne_some.2 fun more hmore => hc ?_
  obtain rfl := dropChar?_eq_some_iff.1 hmore
  refine h c more (skipBlanks_eq_self ?_)
  rintro d _ ⟨⟩
  exact hblank

/-- The marks that can stand behind a type argument. -/
def closers : List Char := [',', '>']

theorem Suffixes.follows {t u : JavaType} (h : Suffixes t cs u rest)
    (hrest : Follows closers rest) : Follows ('[' :: closers) cs := by
  cases h with
  | none => exact hrest.mono (by simp [closers])
  | array hopen _ _ => exact (follows_of_mark hopen (by decide)).mono (by simp)

theorem Arguments.follows {scope : TypeScope} {args : List JavaType}
    (h : Arguments scope cs args rest) (hrest : Follows ('[' :: closers) rest) :
    Follows ('<' :: '[' :: closers) cs := by
  cases h with
  | none => exact hrest.mono (by simp)
  | some hopen _ _ => exact (follows_of_mark hopen (by decide)).mono (by simp)

theorem MoreArguments.follows {scope : TypeScope} {args : List JavaType}
    (h : MoreArguments scope cs args rest) : Follows closers cs := by
  cases h with
  | close hclose => exact (follows_of_mark hclose (by decide)).mono (by simp [closers])
  | comma hcomma _ _ => exact (follows_of_mark hcomma (by decide)).mono (by simp [closers])

end Follows

section Completeness

variable {scope : TypeScope} {input : List Char}

theorem reads_of_name {cs rest : List Char} {first : String} {others : List String}
    (h : Name cs first others rest) (hdot : dropChar? '.' rest = none) :
    Reads (readDottedName input cs) (first, others) rest := by
  induction h with
  | last hword =>
    exact reads_readDottedName_iff.2 ⟨_, _, word_iff_reads.1 hword, .inl ⟨hdot, rfl, rfl⟩⟩
  | @dotted cs more rest word next others hword _ ih =>
    have hdotted : dropChar? '.' ('.' :: more) = some more := dropChar?_eq_some_iff.2 rfl
    exact reads_readDottedName_iff.2
      ⟨word, _, word_iff_reads.1 hword, .inr ⟨more, hdotted, _, _, ih hdot, rfl, rfl⟩⟩

theorem reads_of_suffixes {cs more rest : List Char} {t u : JavaType} (h : Suffixes t cs u rest)
    (hmore : skipBlanks more = skipBlanks cs) (hrest : Follows closers rest) :
    Reads (TypeScope.readSuffixes input t more) u (skipBlanks rest) := by
  rw [TypeScope.reads_readSuffixes_iff, hmore]
  induction h generalizing more with
  | none => exact .inl ⟨hrest.dropChar?_eq_none (by decide), rfl, rfl⟩
  | array hopen hclose hsuffixes ih =>
    have hread := TypeScope.reads_readSuffixes_iff.2 (ih rfl hrest)
    rw [mark_iff (by decide)] at hopen hclose
    exact .inr ⟨_, hopen, (), _, reads_readChar_iff.2 hclose, _, _, hread, rfl, rfl⟩

theorem primitiveNamed?_eq_none {first : String} {others : List String}
    (h : NamesClass first others) : TypeScope.primitiveNamed? first others = none := by
  cases others with
  | cons _ _ => rfl
  | nil =>
    simp only [TypeScope.primitiveNamed?, Primitive.ofName?, List.find?_eq_none, beq_iff_eq]
    exact fun p _ hp => (h rfl).1 p hp.symm

theorem namesVoid_eq_false {first : String} {others : List String}
    (h : NamesClass first others) : TypeScope.namesVoid first others = false := by
  cases others with
  | cons _ _ => rfl
  | nil => simpa [TypeScope.namesVoid] using (h rfl).2

/-- A word does not open a wildcard. -/
theorem dropMark?_eq_none {inArguments : Bool} {cs rest : List Char} {word : String}
    (h : Word cs word rest) : TypeScope.dropMark? inArguments cs = none := by
  obtain ⟨c, letters, -, rfl, hc⟩ := h.head
  have hmark : c ≠ '?' := by
    rintro rfl
    exact absurd hc (by decide)
  cases inArguments <;> simp [TypeScope.dropMark?, dropChar?, hmark]

theorem startsKeyword_eq_false {cs : List Char} (h : Follows closers cs) :
    TypeScope.startsKeyword (skipBlanks cs) = false := by
  cases hcs : skipBlanks cs with
  | nil => rfl
  | cons c more =>
    have hc := h c more hcs
    simp only [closers, List.mem_cons, List.not_mem_nil, or_false] at hc
    rcases hc with rfl | rfl <;> simp [TypeScope.startsKeyword] <;> decide

/-- A type argument does not open with the end of the list. -/
theorem Argument.dropChar?_eq_none {cs rest : List Char} {t : JavaType}
    (h : Argument scope cs t rest) : dropChar? '>' (skipBlanks cs) = none := by
  have hword {body behind : List Char} {word : String} (hblanks : Blanks cs body)
      (hword : Word body word behind) : dropChar? '>' (skipBlanks cs) = none := by
    obtain ⟨c, letters, -, hbody, hc⟩ := hword.head
    rw [hblanks.skipBlanks_eq, hword.skipBlanks_eq, hbody]
    have hmark : c ≠ '>' := by
      rintro rfl
      exact absurd hc (by decide)
    simp [dropChar?, hmark]
  have hmark {more : List Char} (hmark : Mark '?' cs more) :
      dropChar? '>' (skipBlanks cs) = none :=
    (follows_of_mark hmark (by decide)).dropChar?_eq_none (by decide)
  cases h with
  | unbounded hquestion _ => exact hmark hquestion
  | extending hquestion _ _ _ => exact hmark hquestion
  | superOf hquestion _ _ _ => exact hmark hquestion
  | type htype _ =>
    cases htype with
    | primitive hblanks hname _ => exact hword hblanks hname.word.choose_spec
    | declared hblanks hname _ _ _ => exact hword hblanks hname.word.choose_spec

/-- A keyword and the bound behind it make a wildcard. -/
theorem reads_of_wildcard {keyword : String} {wildcard : JavaType → JavaType}
    {cs more body behind rest : List Char} {bound : JavaType}
    (hstart : keyword.toList.head?.any Unicode.isAlphabetic = true)
    (hwildcard : TypeScope.boundedBy? keyword = some wildcard) (hmark : Mark '?' cs more)
    (hblanks : Blanks more body) (hkeyword : Word body keyword behind)
    (hbound : Reads (TypeScope.readType scope input true behind) bound rest) :
    Reads (TypeScope.readType scope input true cs) (wildcard bound) rest := by
  rw [mark_iff (by decide)] at hmark
  refine TypeScope.reads_readType_iff.2 (.inl ⟨_, hmark, _, _, ?_, rfl, rfl⟩)
  rw [TypeScope.reads_readWildcard_iff, hblanks.skipBlanks_eq, hkeyword.skipBlanks_eq]
  refine .inr ⟨?_, keyword, behind, word_iff_reads.1 hkeyword, ?_⟩
  · obtain ⟨c, letters, hletters, rfl, -⟩ := hkeyword.head
    simpa [TypeScope.startsKeyword, hletters] using hstart
  · exact ⟨bound, rest, hbound, wildcard, hwildcard, rfl, rfl⟩

mutual

theorem reads_of_typeText {inArguments : Bool} {cs rest : List Char} {t : JavaType}
    (h : TypeText scope cs t rest) (hbare : (inArguments && t.isPrimitive) = false)
    (hrest : Follows closers rest) :
    Reads (TypeScope.readType scope input inArguments cs) t (skipBlanks rest) := by
  rw [TypeScope.reads_readType_iff]
  match h with
  | @TypeText.primitive _ _ _ more _ p _ hblanks hname hsuffixes =>
    obtain ⟨behind, hword⟩ := hname.word
    rw [hblanks.skipBlanks_eq, hword.skipBlanks_eq]
    have hdot := (hsuffixes.follows hrest).ne_cons (c := '.') (by decide) (by decide)
    have hsuffixes : Reads (TypeScope.readSuffixes input (.primitive p) more) t _ :=
      reads_of_suffixes hsuffixes rfl hrest
    refine .inr ⟨dropMark?_eq_none hword, _, more, reads_of_name hname hdot, .inl ⟨p, ?_, ?_⟩⟩
    · exact Primitive.ofName?_name p
    · exact ⟨t, _, hsuffixes, hbare, rfl, rfl⟩
  | @TypeText.declared _ _ _ more _ _ _ _ args _ hblanks hname hclass hargs hsuffixes =>
    obtain ⟨behind, hword⟩ := hname.word
    rw [hblanks.skipBlanks_eq, hword.skipBlanks_eq]
    have hfollows := hsuffixes.follows hrest
    have hdot := (hargs.follows hfollows).ne_cons (c := '.') (by decide) (by decide)
    obtain ⟨last, hargs, hlast⟩ := reads_of_arguments hargs hfollows
    have hsuffixes : Reads (TypeScope.readSuffixes input (.declared _ args) last) t _ :=
      reads_of_suffixes hsuffixes hlast hrest
    refine .inr ⟨dropMark?_eq_none hword, _, more, reads_of_name hname hdot, .inr ⟨?_, ?_, ?_⟩⟩
    · exact primitiveNamed?_eq_none hclass
    · exact namesVoid_eq_false hclass
    · exact ⟨args, last, hargs, t, _, hsuffixes, rfl, rfl⟩

theorem reads_of_argument {cs rest : List Char} {t : JavaType}
    (h : Argument scope cs t rest) (hrest : Follows closers rest) :
    Reads (TypeScope.readType scope input true cs) t (skipBlanks rest) := by
  match h with
  | .unbounded hmark hblanks =>
    rw [mark_iff (by decide)] at hmark
    refine TypeScope.reads_readType_iff.2 (.inl ⟨_, hmark, _, _, ?_, rfl, rfl⟩)
    rw [TypeScope.reads_readWildcard_iff, hblanks.skipBlanks_eq]
    exact .inl ⟨startsKeyword_eq_false hrest, rfl, rfl⟩
  | .extending hmark hblanks hkeyword hbound =>
    exact reads_of_wildcard rfl rfl hmark hblanks hkeyword (reads_of_argument hbound hrest)
  | .superOf hmark hblanks hkeyword hbound =>
    exact reads_of_wildcard rfl rfl hmark hblanks hkeyword (reads_of_argument hbound hrest)
  | .type htype hprimitive => exact reads_of_typeText htype hprimitive hrest

theorem reads_of_arguments {cs rest : List Char} {args : List JavaType}
    (h : Arguments scope cs args rest) (hrest : Follows ('[' :: closers) rest) :
    ∃ last, Reads (TypeScope.readArguments scope input cs) args last ∧
      skipBlanks last = skipBlanks rest := by
  match h with
  | .none =>
    refine ⟨skipBlanks cs, TypeScope.reads_readArguments_iff.2 (.inl ⟨?_, rfl, rfl⟩), by simp⟩
    exact hrest.dropChar?_eq_none (by decide)
  | .some hopen harg hmore =>
    rw [mark_iff (by decide)] at hopen
    have hread := reads_of_argument harg hmore.follows
    have hmore := reads_of_moreArguments hmore (skipBlanks_skipBlanks _)
    refine ⟨rest, TypeScope.reads_readArguments_iff.2 (.inr ⟨_, hopen, ?_, ?_⟩), rfl⟩
    · exact harg.dropChar?_eq_none
    · exact ⟨_, _, hread, _, _, hmore, rfl, rfl⟩

theorem reads_of_moreArguments {cs start rest : List Char} {args : List JavaType}
    (h : MoreArguments scope cs args rest) (hstart : skipBlanks start = skipBlanks cs) :
    Reads (TypeScope.readMoreArguments scope input start) args rest := by
  rw [TypeScope.reads_readMoreArguments_iff, hstart]
  match h with
  | .close hclose =>
    rw [mark_iff (by decide)] at hclose
    exact .inl ⟨hclose, rfl⟩
  | .comma hcomma harg hmore =>
    have hopen := (follows_of_mark hcomma (by decide)).dropChar?_eq_none (c := '>') (by decide)
    rw [mark_iff (by decide), ← hstart] at hcomma
    have harg := reads_of_argument harg hmore.follows
    have hmore := reads_of_moreArguments hmore (skipBlanks_skipBlanks _)
    exact .inr ⟨hopen, (), _, reads_readChar_iff.2 hcomma, _, _, harg, _, _, hmore, rfl, rfl⟩

end

end Completeness

/-! ## The shape of what is derived -/

theorem Suffixes.isType {cs rest : List Char} {t u : JavaType} (h : Suffixes t cs u rest)
    (ht : IsType t) : IsType u := by
  induction h with
  | none => exact ht
  | array _ _ _ ih => exact ih ht

/-- A type that is no primitive one may stand as a type argument. -/
theorem isArgument_of_isType {t : JavaType} (h : IsType t) (hprimitive : t.isPrimitive = false) :
    IsArgument t := by
  cases t with
  | primitive p => simp [JavaType.isPrimitive] at hprimitive
  | declared c args => exact h
  | array component => exact h
  | unbounded | extending _ | superOf _ => exact h.elim

section Shape

variable {scope : TypeScope} {cs rest : List Char}

mutual

theorem TypeText.isType {cs rest : List Char} {t : JavaType} (h : TypeText scope cs t rest) :
    IsType t := by
  match h with
  | .primitive _ _ hsuffixes => exact hsuffixes.isType trivial
  | .declared _ _ _ hargs hsuffixes => exact hsuffixes.isType hargs.areArguments

theorem Arguments.areArguments {cs rest : List Char} {args : List JavaType}
    (h : Arguments scope cs args rest) : AreArguments args := by
  match h with
  | .none => exact trivial
  | .some _ harg hmore => exact ⟨harg.isArgument, hmore.areArguments⟩

theorem MoreArguments.areArguments {cs rest : List Char} {args : List JavaType}
    (h : MoreArguments scope cs args rest) : AreArguments args := by
  match h with
  | .close _ => exact trivial
  | .comma _ harg hmore => exact ⟨harg.isArgument, hmore.areArguments⟩

theorem Argument.isArgument {cs rest : List Char} {t : JavaType} (h : Argument scope cs t rest) :
    IsArgument t := by
  match h with
  | .unbounded _ _ => exact trivial
  | .extending _ _ _ hbound => exact hbound.isArgument
  | .superOf _ _ _ hbound => exact hbound.isArgument
  | .type htype hprimitive => exact isArgument_of_isType htype.isType hprimitive

end

end Shape

/-! ## Whole texts -/

theorem skipBlanks_eq_nil_iff {cs : List Char} :
    skipBlanks cs = [] ↔ ∀ c ∈ cs, Unicode.isBlank c = true := by
  simp [skipBlanks, List.dropWhile_eq_nil_iff]

theorem parse_eq_ok_iff_reads {scope : TypeScope} {text : String} {t : JavaType} :
    scope.parse text = .ok t ↔
      ∃ rest, Reads (scope.readType text.toList false text.toList) t rest ∧
        skipBlanks rest = [] := by
  rw [TypeScope.parse]
  split
  · next fault h => simp [h]
  · next reading h =>
    simp only [h, reads_ok, List.isEmpty_iff]
    split
    · next hrest =>
      constructor
      · intro hvalue
        exact ⟨reading.rest, ⟨Except.ok.inj hvalue, rfl⟩, hrest⟩
      · rintro ⟨_, ⟨rfl, _⟩, _⟩
        rfl
    · next hrest =>
      refine iff_of_false (by simp) ?_
      rintro ⟨_, ⟨_, rfl⟩, hnil⟩
      exact hrest hnil

theorem parse_eq_ok_iff_denotes {scope : TypeScope} {text : String} {t : JavaType} :
    scope.parse text = .ok t ↔ Denotes scope text t := by
  rw [parse_eq_ok_iff_reads]
  constructor
  · rintro ⟨rest, hread, hrest⟩
    obtain ⟨body, htype, rfl⟩ := phrase_of_reads hread
    exact ⟨body, htype, skipBlanks_eq_nil_iff.1 (by simpa using hrest)⟩
  · rintro ⟨rest, htype, hrest⟩
    have hrest := skipBlanks_eq_nil_iff.2 hrest
    refine ⟨skipBlanks rest, reads_of_typeText htype rfl ?_, by simpa using hrest⟩
    intro c more hmore
    simp [hrest] at hmore

/-- A text is parsed as a type exactly if the grammar derives that type from it.  A derived type
has no primitive type as a type argument or bound, no array of wildcards, and no wildcard outside
of type arguments. -/
theorem parse_eq_ok_iff (scope : TypeScope) (text : String) :
    (∀ t, scope.parse text = .ok t ↔ Denotes scope text t) ∧
      ∀ t, scope.parse text = .ok t → IsType t := by
  refine ⟨fun t => parse_eq_ok_iff_denotes, fun t h => ?_⟩
  obtain ⟨rest, htype, -⟩ := parse_eq_ok_iff_denotes.1 h
  exact htype.isType

end ValueBuilder.Java.Grammar
