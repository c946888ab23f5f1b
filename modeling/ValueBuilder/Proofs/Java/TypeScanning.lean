import ValueBuilder.Proofs.Java.QualifiedNames
import ValueBuilder.Proofs.Java.ScanSteps
import ValueBuilder.Proofs.Java.TypeParsing

/-!
# Scanning by byte offsets is safe

A scan of a type expression ends if it may take a turn for each character of the text and one for
its end, and its answer is that of `TypeScope.parse`.  On the way it cuts the text at boundaries of
characters only, begins each inner type behind the beginning of the type around it, and looks up no
name that denotes nothing; a fault of the scan points at the text (`scan_safely_answers_parse`).
The scan mirrors the readers one by one, by recursion on the length of what is left.
-/

namespace ValueBuilder.Java

namespace Scanner

/-! ## Names -/

section Names

variable {first : String} {others : List String}

theorem dot_mem_intercalate (first next : String) (others : List String) :
    '.' ∈ (".".intercalate (first :: next :: others)).toList := by
  rw [String.intercalate_cons_cons]
  simp

/-- A name with a dot is no keyword. -/
theorem ofName?_intercalate (first : String) (others : List String) :
    Primitive.ofName? (".".intercalate (first :: others)) =
      TypeScope.primitiveNamed? first others := by
  cases others with
  | nil => rw [String.intercalate_singleton, TypeScope.primitiveNamed?]
  | cons next others =>
    rw [TypeScope.primitiveNamed?, Primitive.ofName?, List.find?_eq_none]
    intro p _ hp
    have hdot := dot_mem_intercalate first next others
    rw [← beq_iff_eq.1 hp] at hdot
    cases p <;> exact absurd hdot (by decide)

theorem intercalate_beq_void (first : String) (others : List String) :
    (".".intercalate (first :: others) == "void") = TypeScope.namesVoid first others := by
  cases others with
  | nil => rw [String.intercalate_singleton]; rfl
  | cons next others =>
    rw [TypeScope.namesVoid, List.isEmpty_cons, Bool.false_and, beq_eq_false_iff_ne]
    intro hvoid
    have hdot := dot_mem_intercalate first next others
    rw [hvoid] at hdot
    exact absurd hdot (by decide)

/-- A name that is put together from identifiers denotes the class that they denote. -/
theorem classNamed_intercalate (scope : TypeScope)
    (h : ∀ s ∈ first :: others, isIdentifier s = true) :
    classNamed scope (".".intercalate (first :: others)) = .ok (scope.resolve first others) := by
  obtain ⟨hfirst, hothers⟩ := splitBy_of_parts (ClassName.parts_of_identifiers h)
  rw [classNamed]
  dsimp only
  rw [hfirst, hothers, ClassName.parse_intercalate h, TypeScope.resolve]
  split <;> rfl

end Names

/-! ## Names and suffixes -/

section Loops

variable {scope : TypeScope} {text : String}

theorem mirrors_segments {turns : Nat} {rest : List Char} {s : ScanState}
    (h : StandsBefore scope text rest s) (hturns : rest.length < turns) :
    Mirrors scope text (segments text turns) s (readDottedName text.toList rest) := by
  obtain ⟨turns, rfl⟩ := Nat.exists_eq_add_one.2 (Nat.zero_lt_of_lt hturns)
  rw [segments, readDottedName]
  refine (mirrors_identifier h hturns).bind fun first found _ hfound => ?_
  have := first.shorter
  split
  · next hnone =>
    refine (yields_eat_none hfound hnone).mirrors ?_
    rintro _ last ⟨rfl, hlast⟩
    exact mirrors_pure rfl hlast
  · next more hmore =>
    have := length_lt_of_dropChar? hmore
    refine (yields_eat_some hfound hmore).mirrors ?_
    rintro _ eaten ⟨rfl, heaten⟩
    refine (mirrors_segments heaten (by omega)).bind fun others last _ hlast => ?_
    exact mirrors_pure rfl hlast
termination_by rest.length

theorem mirrors_suffixes {t : JavaType} {turns : Nat} {rest : List Char} {s : ScanState}
    (h : StandsBefore scope text rest s) (hturns : rest.length < turns) :
    Mirrors scope text (suffixes text t turns) s (TypeScope.readSuffixes text.toList t rest) := by
  obtain ⟨turns, rfl⟩ := Nat.exists_eq_add_one.2 (Nat.zero_lt_of_lt hturns)
  rw [suffixes, TypeScope.readSuffixes]
  refine (yields_skipBlanks h hturns).mirrors fun _ skipped hskipped => ?_
  split
  · next hnone =>
    refine (yields_eat_none hskipped hnone).mirrors ?_
    rintro _ last ⟨rfl, hlast⟩
    exact mirrors_pure rfl hlast
  · next inside hinside =>
    have := length_lt_of_dropChar?_skipBlanks hinside
    refine (yields_eat_some hskipped hinside).mirrors ?_
    rintro _ eaten ⟨rfl, heaten⟩
    refine (mirrors_expect heaten (by omega) rfl).bind fun closed last _ hlast => ?_
    have := closed.shorter
    exact (mirrors_suffixes hlast (by omega)).rebound fun _ => ⟨rfl, rfl⟩
termination_by rest.length

end Loops

/-! ## Types -/

section Types

variable {scope : TypeScope} {text : String}

theorem yields_nest {outer : Nat} {rest : List Char} {s : ScanState} (houter : outer < s.position)
    (h : StandsBefore scope text rest s) :
    Yields (nest outer) s fun _ last => StandsBefore scope text rest last := by
  have hstep : ScanStep.IsSound scope text (.nest outer s.position) := by
    have := h.position_add
    exact ⟨houter, by omega⟩
  refine yields_position.bind ?_
  rintro _ _ ⟨rfl, rfl⟩
  exact yields_record h hstep

theorem yields_resolve {first : String} {others : List String} {rest : List Char} {s : ScanState}
    (hname : ∀ s ∈ first :: others, isIdentifier s = true) (h : StandsBefore scope text rest s) :
    Yields (resolve scope (".".intercalate (first :: others))) s fun c last =>
      c = scope.resolve first others ∧ StandsBefore scope text rest last := by
  have hclass := classNamed_intercalate scope hname
  have hstep : ScanStep.IsSound scope text (.lookup (".".intercalate (first :: others))) :=
    ⟨_, hclass⟩
  refine (yields_record h hstep).bind fun _ last hlast => ⟨_, last, ?_, rfl, hlast⟩
  rw [hclass]
  rfl

theorem yields_mark_some {inArguments : Bool} {cs rest : List Char} {s : ScanState}
    (h : StandsBefore scope text cs s)
    (hmark : TypeScope.dropMark? inArguments cs = some rest) :
    Yields (eatMark inArguments text) s fun marked last =>
      marked = true ∧ StandsBefore scope text rest last := by
  cases inArguments with
  | true => exact yields_eat_some h hmark
  | false => simp [TypeScope.dropMark?] at hmark

theorem yields_mark_none {inArguments : Bool} {cs : List Char} {s : ScanState}
    (h : StandsBefore scope text cs s) (hmark : TypeScope.dropMark? inArguments cs = none) :
    Yields (eatMark inArguments text) s fun marked last =>
      marked = false ∧ StandsBefore scope text cs last := by
  cases inArguments with
  | true => exact yields_eat_none h hmark
  | false => exact yields_pure ⟨rfl, h⟩

theorem mirrors_checkArgument {inArguments : Bool} {bound : Nat}
    {reading : Reading Char JavaType bound} {t : JavaType} {s : ScanState}
    (hbare : (inArguments && t.isPrimitive) = false) (ht : t = reading.value)
    (h : StandsBefore scope text reading.rest s) :
    Mirrors scope text (checkArgument inArguments t) s (pure reading) := by
  have hchecked : checkArgument inArguments t = pure t := by
    cases inArguments <;> cases t <;> first | rfl | simp [JavaType.isPrimitive] at hbare
  rw [hchecked]
  exact mirrors_pure ht h

/-- A type that is primitive behind its suffixes has none. -/
theorem value_of_readSuffixes {input cs : List Char} {t : JavaType}
    {suffixed : Reading Char JavaType (cs.length + 1)}
    (h : TypeScope.readSuffixes input t cs = .ok suffixed)
    (hprimitive : suffixed.value.isPrimitive = true) : suffixed.value = t := by
  obtain ⟨body, hsuffixes, -⟩ := Grammar.suffixes_of_reads ⟨suffixed, h, rfl, rfl⟩
  cases hsuffixes with
  | none => rfl
  | array _ _ hmore => simp [hmore.isPrimitive_eq_false rfl] at hprimitive

section Ends

variable {inArguments : Bool} {turns : Nat} {rest : List Char} {s : ScanState} {bound : Nat}
  {finish : Reading Char JavaType (rest.length + 1) → Reading Char JavaType bound}

/-- The end of a primitive type, which may not be bare where a type argument must stand. -/
theorem mirrors_primitive {p : Primitive} (h : StandsBefore scope text rest s)
    (hturns : rest.length < turns)
    (hfinish : ∀ reading,
      (finish reading).value = reading.value ∧ (finish reading).rest = reading.rest) :
    Mirrors scope text (suffixes text (.primitive p) turns >>= checkArgument inArguments) s (do
      let suffixed ← TypeScope.readSuffixes text.toList (.primitive p) rest
      if inArguments && suffixed.value.isPrimitive then throw (.primitiveArgument p)
      return finish suffixed) := by
  refine (mirrors_suffixes h hturns).bind fun suffixed last hsuffixed hlast => ?_
  obtain ⟨hvalue, hrest⟩ := hfinish suffixed
  split
  · next hbare =>
    obtain ⟨hin, hprimitive⟩ := Bool.and_eq_true_iff.1 hbare
    have hstops : StopsWith scope text (.primitiveArgument p) last := ⟨trivial, hlast.sound⟩
    rw [hin, value_of_readSuffixes hsuffixed hprimitive]
    exact mirrors_throw hstops
  · next hbare =>
    exact mirrors_checkArgument (by simpa using hbare) hvalue.symm (hrest ▸ hlast)

/-- The end of a class with its type arguments. -/
theorem mirrors_declared {c : ClassName} {args : List JavaType}
    (h : StandsBefore scope text rest s) (hturns : rest.length < turns)
    (hfinish : ∀ reading,
      (finish reading).value = reading.value ∧ (finish reading).rest = reading.rest) :
    Mirrors scope text (suffixes text (.declared c args) turns >>= checkArgument inArguments) s (do
      let suffixed ← TypeScope.readSuffixes text.toList (.declared c args) rest
      return finish suffixed) := by
  refine (mirrors_suffixes h hturns).bind fun suffixed last hsuffixed hlast => ?_
  obtain ⟨hvalue, hrest⟩ := hfinish suffixed
  have hproper : suffixed.value.isPrimitive = false := by
    by_contra hprimitive
    have hsame := value_of_readSuffixes hsuffixed (by simpa using hprimitive)
    simp [hsame, JavaType.isPrimitive] at hprimitive
  exact mirrors_checkArgument (by simp [hproper]) hvalue.symm (hrest ▸ hlast)

end Ends

mutual

/-- The scan may have skipped blanks in front of which the reader still stands. -/
theorem mirrors_type {inArguments : Bool} {turns : Nat} {start rest : List Char} {s : ScanState}
    (h : StandsBefore scope text start s) (hturns : start.length < turns)
    (hskip : Java.skipBlanks start = Java.skipBlanks rest) :
    Mirrors scope text (type scope text inArguments turns) s
      (scope.readType text.toList inArguments rest) := by
  obtain ⟨turns, rfl⟩ := Nat.exists_eq_add_one.2 (Nat.zero_lt_of_lt hturns)
  rw [type, TypeScope.readType]
  refine yields_position.mirrors ?_
  rintro _ _ ⟨rfl, rfl⟩
  refine (yields_skipBlanks h hturns).mirrors fun _ skipped hskipped => ?_
  rw [hskip] at hskipped
  split
  · next marked hmarked =>
    have := TypeScope.length_lt_of_dropMark?_skipBlanks hmarked
    refine (yields_mark_some hskipped hmarked).mirrors ?_
    rintro _ eaten ⟨rfl, heaten⟩
    have hshorter : marked.length < start.length := by
      rw [← hskip] at hmarked
      exact TypeScope.length_lt_of_dropMark?_skipBlanks hmarked
    have houter := h.position_lt heaten hshorter
    exact (mirrors_wildcard houter heaten (by omega)).rebound fun _ => ⟨rfl, rfl⟩
  · next hmarked =>
    refine (yields_mark_none hskipped hmarked).mirrors ?_
    rintro _ unmarked ⟨rfl, hunmarked⟩
    simp only [dottedName, bind_assoc, pure_bind]
    have hblanks : (Java.skipBlanks rest).length ≤ start.length := by
      rw [← hskip]
      exact length_skipBlanks_le start
    refine (mirrors_segments hunmarked (by omega)).bind fun name named hname hnamed => ?_
    have hids : ∀ s ∈ name.value.1 :: name.value.2, isIdentifier s = true :=
      (Grammar.name_of_reads ⟨name, hname, rfl, rfl⟩).identifiers
    -- The scan judges the whole name, the reader its first segment and the others.
    rw [ofName?_intercalate, intercalate_beq_void]
    have hshorter := name.shorter
    have := length_skipBlanks_le rest
    cases hp : TypeScope.primitiveNamed? name.value.1 name.value.2 with
    | some p => exact mirrors_primitive hnamed (by omega) fun _ => ⟨rfl, rfl⟩
    | none =>
      have hstops : StopsWith scope text .void named := ⟨trivial, hnamed.sound⟩
      dsimp only
      split
      · exact mirrors_throw hstops
      · refine (yields_resolve hids hnamed).mirrors ?_
        rintro _ resolved ⟨rfl, hresolved⟩
        have houter : s.position < resolved.position := h.position_lt hresolved (by omega)
        refine (mirrors_arguments houter hresolved (by omega)).bind
          fun args behind _ hbehind => ?_
        have := args.shorter
        exact mirrors_declared hbehind (by omega) fun _ => ⟨rfl, rfl⟩
termination_by rest.length

theorem mirrors_wildcard {outer turns : Nat} {rest : List Char} {s : ScanState}
    (houter : outer < s.position) (h : StandsBefore scope text rest s)
    (hturns : rest.length < turns) :
    Mirrors scope text (wildcard scope text outer turns) s
      (scope.readWildcard text.toList rest) := by
  obtain ⟨turns, rfl⟩ := Nat.exists_eq_add_one.2 (Nat.zero_lt_of_lt hturns)
  rw [wildcard, TypeScope.readWildcard]
  refine (yields_skipBlanks h hturns).mirrors fun _ skipped hskipped => ?_
  refine (yields_peek hskipped).mirrors ?_
  rintro _ peeked ⟨rfl, hpeeked⟩
  have := length_skipBlanks_le rest
  split
  · next c hc =>
    have hstarts : TypeScope.startsKeyword (Java.skipBlanks rest) = Unicode.isAlphabetic c := by
      rw [TypeScope.startsKeyword, hc]
      rfl
    rw [hstarts]
    split
    · refine yields_position.mirrors ?_
      rintro _ _ ⟨rfl, rfl⟩
      refine (mirrors_identifier hpeeked (by omega)).bind fun keyword named _ hnamed => ?_
      have := keyword.shorter
      have houter := houter.trans (h.position_lt hnamed (by omega))
      refine (yields_nest houter hnamed).mirrors fun _ nested hnested => ?_
      refine (mirrors_type hnested (by omega) rfl).bind fun bound last _ hlast => ?_
      cases TypeScope.boundedBy? keyword.value with
      | some wildcard => exact mirrors_pure rfl hlast
      | none =>
        -- The fault is at the keyword, though the scan has gone on to the end of the bound.
        rw [stuckAt_eq hpeeked hc]
        exact mirrors_throw ⟨fits_unexpected hpeeked hc last, hlast.sound⟩
    · exact mirrors_pure rfl hpeeked
  · next hend =>
    have hstarts : TypeScope.startsKeyword (Java.skipBlanks rest) = false := by
      rw [TypeScope.startsKeyword, hend]
      rfl
    rw [hstarts]
    exact mirrors_pure rfl hpeeked
termination_by rest.length

theorem mirrors_arguments {outer turns : Nat} {rest : List Char} {s : ScanState}
    (houter : outer < s.position) (h : StandsBefore scope text rest s)
    (hturns : rest.length < turns) :
    Mirrors scope text (arguments scope text outer turns) s
      (scope.readArguments text.toList rest) := by
  obtain ⟨turns, rfl⟩ := Nat.exists_eq_add_one.2 (Nat.zero_lt_of_lt hturns)
  rw [arguments, TypeScope.readArguments]
  refine (yields_skipBlanks h hturns).mirrors fun _ skipped hskipped => ?_
  split
  · next hnone =>
    refine (yields_eat_none hskipped hnone).mirrors ?_
    rintro _ last ⟨rfl, hlast⟩
    exact mirrors_pure rfl hlast
  · next inside hinside =>
    have := length_lt_of_dropChar?_skipBlanks hinside
    refine (yields_eat_some hskipped hinside).mirrors ?_
    rintro _ eaten ⟨rfl, heaten⟩
    simp only [if_true]
    refine (yields_skipBlanks heaten (by omega)).mirrors fun _ opened hopened => ?_
    split
    · next hempty =>
      obtain ⟨more, hmore⟩ := Option.isSome_iff_exists.1 hempty
      refine (yields_eat_some hopened hmore).mirrors ?_
      rintro _ last ⟨rfl, hlast⟩
      have hstops : StopsWith scope text .emptyArguments last := ⟨trivial, hlast.sound⟩
      exact mirrors_throw hstops
    · next hempty =>
      refine (yields_eat_none hopened (Option.not_isSome_iff_eq_none.1 hempty)).mirrors ?_
      rintro _ uneaten ⟨rfl, huneaten⟩
      have := length_skipBlanks_le inside
      have hinside : s.position < uneaten.position := h.position_lt huneaten (by omega)
      refine (yields_nest (houter.trans hinside) huneaten).mirrors fun _ nested hnested => ?_
      -- The scan stands behind the blanks that the reader is about to skip.
      refine (mirrors_type hnested (by omega) (Grammar.skipBlanks_skipBlanks inside)).bind
        fun arg found _ hfound => ?_
      have := arg.shorter
      have hfound' : outer < found.position := houter.trans (h.position_lt hfound (by omega))
      refine (mirrors_moreArguments hfound' hfound (by omega)).bind fun others last _ hlast => ?_
      exact mirrors_pure rfl hlast
termination_by rest.length

theorem mirrors_moreArguments {outer turns : Nat} {rest : List Char} {s : ScanState}
    (houter : outer < s.position) (h : StandsBefore scope text rest s)
    (hturns : rest.length < turns) :
    Mirrors scope text (moreArguments scope text outer turns) s
      (scope.readMoreArguments text.toList rest) := by
  obtain ⟨turns, rfl⟩ := Nat.exists_eq_add_one.2 (Nat.zero_lt_of_lt hturns)
  rw [moreArguments, TypeScope.readMoreArguments]
  refine (yields_skipBlanks h hturns).mirrors fun _ skipped hskipped => ?_
  split
  · next behind hbehind =>
    refine (yields_eat_some hskipped hbehind).mirrors ?_
    rintro _ last ⟨rfl, hlast⟩
    exact mirrors_pure rfl hlast
  · next hnone =>
    refine (yields_eat_none hskipped hnone).mirrors ?_
    rintro _ uneaten ⟨rfl, huneaten⟩
    have := length_skipBlanks_le rest
    refine (mirrors_expect huneaten (by omega) (Grammar.skipBlanks_skipBlanks rest)).bind
      fun comma expected _ hexpected => ?_
    have := comma.shorter
    have hexpected' := h.position_lt hexpected comma.shorter
    refine (yields_nest (houter.trans hexpected') hexpected).mirrors fun _ nested hnested => ?_
    refine (mirrors_type hnested (by omega) rfl).bind fun arg found _ hfound => ?_
    have := arg.shorter
    have hfound' := hexpected'.trans (hexpected.position_lt hfound arg.shorter)
    refine (mirrors_moreArguments (houter.trans hfound') hfound (by omega)).bind
      fun others last _ hlast => ?_
    exact mirrors_pure rfl hlast
termination_by rest.length

end

end Types

/-! ## Whole texts -/

theorem standsBefore_start (scope : TypeScope) (text : String) :
    StandsBefore scope text text.toList ⟨0, []⟩ :=
  ⟨⟨"", by simp, rfl⟩, by simp⟩

/-- What reading a whole text comes to: a type with nothing but blanks behind it. -/
def readWhole (scope : TypeScope) (text : String) :
    Except TypeFault (Reading Char JavaType text.toList.length) := do
  let reading ← scope.readType text.toList false text.toList
  if (Java.skipBlanks reading.rest).isEmpty then
    return reading.after (blanksOnly reading.value reading.rest)
  else throw (stuckAt text.toList (Java.skipBlanks reading.rest))

theorem parse_eq_readWhole (scope : TypeScope) (text : String) :
    scope.parse text = ((readWhole scope text).map Reading.value).mapError (TypeError.mk text) := by
  rw [TypeScope.parse, readWhole]
  split
  · next fault hread =>
    rw [hread]
    rfl
  · next reading hread =>
    rw [hread]
    dsimp only [bind, Except.bind]
    split <;> rfl

theorem mirrors_whole (scope : TypeScope) (text : String) {turns : Nat}
    (hturns : text.length < turns) :
    Mirrors scope text (whole scope text turns) ⟨0, []⟩ (readWhole scope text) := by
  rw [← String.length_toList] at hturns
  refine (mirrors_type (standsBefore_start scope text) hturns rfl).bind
    fun reading found _ hfound => ?_
  have := reading.shorter
  refine (yields_skipBlanks hfound (by omega)).mirrors fun _ skipped hskipped => ?_
  refine (yields_peek hskipped).mirrors ?_
  rintro _ last ⟨rfl, hlast⟩
  have hnone : (Java.skipBlanks reading.rest).head?.isNone =
      (Java.skipBlanks reading.rest).isEmpty := by
    cases Java.skipBlanks reading.rest <;> rfl
  rw [hnone]
  split
  · exact mirrors_pure rfl hlast
  · exact mirrors_stuck hlast

end Scanner

/-- A scan that may take more turns than the text has characters ends, with the answer of the
parser.  It cuts the text at boundaries of characters, begins each inner type behind the place where
the type around it begins, and looks up names that denote classes.  A character that is refused
stands at the offset that is given, a text that is too short was scanned to its end, and a word that
is no identifier is a part of the text that begins with a number. -/
theorem scan_safely_answers_parse (scope : TypeScope) (text : String) (more : Nat) :
    ∃ answer last, scan scope text (text.length + 1 + more) = some (answer, last) ∧
      scope.parse text = answer.mapError (TypeError.mk text) ∧
      (∀ start stop, .cut start stop ∈ last.steps →
        start ≤ stop ∧ (⟨start⟩ : String.Pos.Raw).IsValid text ∧
          (⟨stop⟩ : String.Pos.Raw).IsValid text) ∧
      (∀ outer inner, .nest outer inner ∈ last.steps →
        outer < inner ∧ inner ≤ text.utf8ByteSize) ∧
      (∀ name, .lookup name ∈ last.steps → ∃ c, Scanner.classNamed scope name = .ok c) ∧
      (∀ position found, answer = .error (.unexpected position found) →
        position < text.utf8ByteSize ∧ ∃ before behind,
          text = before ++ String.singleton found ++ behind ∧ position = before.utf8ByteSize) ∧
      (answer = .error .endOfInput → last.position = text.utf8ByteSize) ∧
      (∀ word, answer = .error (.invalidIdentifier word) →
        (∃ c letters, word.toList = c :: letters ∧ Unicode.isAlphanumeric c = true ∧
          Unicode.isAlphabetic c = false) ∧
        ∃ before behind, text = before ++ word ++ behind) := by
  have hturns : text.length < text.length + 1 + more := by omega
  obtain ⟨last, hscan, hsound, hfits⟩ := (Scanner.mirrors_whole scope text hturns).exists_end
  have hfault {fault : TypeFault}
      (h : (Scanner.readWhole scope text).map Reading.value = .error fault) :
      fault.Fits text last := by
    refine hfits fault ?_
    cases hread : Scanner.readWhole scope text <;> simp_all [Except.map]
  refine ⟨_, last, hscan, Scanner.parse_eq_readWhole scope text, fun _ _ => hsound _,
    fun _ _ => hsound _, fun _ => hsound _, fun position found h => ?_, hfault, fun _ => hfault⟩
  obtain ⟨before, behind, htext, hposition⟩ := hfault h
  refine ⟨?_, before, behind, htext, hposition⟩
  have := found.utf8Size_pos
  rw [htext, hposition, String.utf8ByteSize_append, String.utf8ByteSize_append,
    String.utf8ByteSize_singleton]
  omega

end ValueBuilder.Java
