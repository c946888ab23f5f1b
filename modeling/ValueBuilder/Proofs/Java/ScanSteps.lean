import Mathlib.Data.String.Basic
import ValueBuilder.Proofs.Java.ByteScanner
import ValueBuilder.Proofs.Java.TypeReading

/-!
# Single steps of a scan

A scan is held against a reader of `TypeScope`, which takes characters off the front of a list.

* `StandsBefore` ties the offset of a scan to what a reader has left, and says that all steps so far
  are sound: cuts at boundaries of characters, inner types behind the types around them, and names
  that denote classes.
* `Mirrors` says that a scan comes to what a reader answers.  Scans in a row mirror readers in a row
  (`Mirrors.bind`), and a step that only moves on counts for nothing (`Yields.mirrors`).
* Every fault says something true about the text and the place where the scan stopped
  (`TypeFault.Fits`).
-/

namespace ValueBuilder.Java

/-! ## Offsets and cuts -/

theorem utf8Length_eq (cs : List Char) : utf8Length cs = (String.ofList cs).utf8ByteSize := by
  rw [String.utf8ByteSize_ofList]
  induction cs with
  | nil => rfl
  | cons c cs ih => rw [utf8Length, String.utf8Len, ih, Nat.add_comm]

theorem utf8Length_append (cs ds : List Char) :
    utf8Length (cs ++ ds) = utf8Length cs + utf8Length ds := by
  simp only [utf8Length_eq, String.ofList_append, String.utf8ByteSize_append]

theorem isValid_of_append {text before behind : String} (h : text = before ++ behind) :
    (⟨before.utf8ByteSize⟩ : String.Pos.Raw).IsValid text :=
  String.Pos.Raw.isValid_iff_exists_append.2 ⟨before, behind, h, rfl⟩

theorem pos?_eq_some {text : String} {p : String.Pos.Raw} (h : p.IsValid text) :
    text.pos? p = some ⟨p, h⟩ := by
  have hslice := String.Pos.Raw.isValidForSlice_toSlice_iff.2 h
  rw [String.pos?, String.Slice.pos?]
  simp [hslice]
  rfl

/-- Cutting out between what stands before a part and what stands behind it gives the part. -/
theorem extract_append_append (before part behind : String)
    (hstart : (⟨before.utf8ByteSize⟩ : String.Pos.Raw).IsValid (before ++ (part ++ behind)))
    (hstop : (⟨before.utf8ByteSize + part.utf8ByteSize⟩ : String.Pos.Raw).IsValid
      (before ++ (part ++ behind))) :
    String.extract ⟨_, hstart⟩ ⟨_, hstop⟩ = part := by
  rw [← String.toByteArray_inj, String.toByteArray_extract, String.toByteArray_append,
    String.toByteArray_append]
  exact (ByteArray.extract_append_size_add (i := 0)).trans (ByteArray.extract_append_eq_left rfl)

theorem cut?_eq_some {text before part behind : String} (h : text = before ++ (part ++ behind)) :
    cut? text before.utf8ByteSize (before.utf8ByteSize + part.utf8ByteSize) = some part := by
  subst h
  have hstart := isValid_of_append (rfl : before ++ (part ++ behind) = _)
  have hstop : (⟨(before ++ part).utf8ByteSize⟩ : String.Pos.Raw).IsValid
      (before ++ (part ++ behind)) := isValid_of_append String.append_assoc.symm
  rw [String.utf8ByteSize_append] at hstop
  rw [cut?, pos?_eq_some hstart, pos?_eq_some hstop]
  have hle : (⟨_, hstart⟩ : String.Pos _) ≤ ⟨_, hstop⟩ := by
    rw [String.Pos.le_iff, String.Pos.Raw.le_iff]
    exact Nat.le_add_right _ _
  exact (if_pos hle).trans (congrArg some (extract_append_append before part behind hstart hstop))

/-- A cut inside a character gives nothing. -/
example : cut? "größe" 2 4 = some "ö" ∧ cut? "größe" 2 3 = none := by decide

/-! ## Sound scans -/

/-- What each step of a sound scan is: a cut at boundaries of characters, a type that begins behind
the one around it, a name that denotes a class. -/
def ScanStep.IsSound (scope : TypeScope) (text : String) : ScanStep → Prop
  | .cut start stop =>
    start ≤ stop ∧ (⟨start⟩ : String.Pos.Raw).IsValid text ∧ (⟨stop⟩ : String.Pos.Raw).IsValid text
  | .nest outer inner => outer < inner ∧ inner ≤ text.utf8ByteSize
  | .lookup name => ∃ c, Scanner.classNamed scope name = .ok c

/-- The scan stands in front of `rest`, and all that it did is sound. -/
structure StandsBefore (scope : TypeScope) (text : String) (rest : List Char) (s : ScanState) :
    Prop where
  place : ∃ before : String, text = before ++ String.ofList rest ∧ s.position = before.utf8ByteSize
  sound : ∀ step ∈ s.steps, step.IsSound scope text

/-- What a fault says about the text and about the place where the scan stopped. -/
def TypeFault.Fits (text : String) (s : ScanState) : TypeFault → Prop
  | .endOfInput => s.position = text.utf8ByteSize
  | .unexpected position found =>
    ∃ before behind, text = before ++ String.singleton found ++ behind ∧
      position = before.utf8ByteSize
  | .invalidIdentifier word =>
    (∃ c letters, word.toList = c :: letters ∧ Unicode.isAlphanumeric c = true ∧
      Unicode.isAlphabetic c = false) ∧
    ∃ before behind, text = before ++ word ++ behind
  | .emptyArguments | .primitiveArgument _ | .void => True

/-- The scan stopped with a fault that fits, and all that it did is sound. -/
structure StopsWith (scope : TypeScope) (text : String) (fault : TypeFault) (s : ScanState) :
    Prop where
  fits : fault.Fits text s
  sound : ∀ step ∈ s.steps, step.IsSound scope text

section States

variable {scope : TypeScope} {text : String} {cs rest : List Char} {s last : ScanState}

theorem StandsBefore.position_add (h : StandsBefore scope text rest s) :
    s.position + utf8Length rest = text.utf8ByteSize := by
  obtain ⟨before, htext, hposition⟩ := h.place
  rw [htext, String.utf8ByteSize_append, hposition, utf8Length_eq]

theorem StandsBefore.position_eq (h : StandsBefore scope text rest s) :
    s.position = utf8Length text.toList - utf8Length rest := by
  have hadd := h.position_add
  rw [utf8Length_eq, String.ofList_toList]
  omega

theorem StandsBefore.suffix (h : StandsBefore scope text rest s) : rest <:+ text.toList := by
  obtain ⟨before, htext, -⟩ := h.place
  exact ⟨before.toList, by simp [htext]⟩

/-- A scan that has less before it stands further on. -/
theorem StandsBefore.position_lt (h : StandsBefore scope text cs s)
    (hlast : StandsBefore scope text rest last) (hlt : rest.length < cs.length) :
    s.position < last.position := by
  obtain ⟨between, rfl⟩ := List.suffix_of_suffix_length_le hlast.suffix h.suffix hlt.le
  have hne : utf8Length between ≠ 0 := by
    cases between with
    | nil => simp at hlt
    | cons c between =>
      have := c.utf8Size_pos
      rw [utf8Length]
      omega
  have := h.position_add
  rw [utf8Length_append] at this
  have := hlast.position_add
  omega

theorem StandsBefore.record (h : StandsBefore scope text rest s) {step : ScanStep}
    (hstep : step.IsSound scope text) :
    StandsBefore scope text rest { s with steps := s.steps ++ [step] } := by
  refine ⟨h.place, fun other hother => ?_⟩
  rcases List.mem_append.1 hother with hold | hnew
  · exact h.sound other hold
  · exact List.mem_singleton.1 hnew ▸ hstep

theorem StandsBefore.advance {c : Char} (h : StandsBefore scope text (c :: rest) s) :
    StandsBefore scope text rest { s with position := s.position + c.utf8Size } := by
  obtain ⟨before, htext, hposition⟩ := h.place
  refine ⟨⟨before ++ String.singleton c, ?_, ?_⟩, h.sound⟩
  · rw [htext, String.append_assoc]
    simp [String.ofList_cons]
  · simp [hposition]

end States

/-! ## What a scan comes to -/

/-- The scan goes on with a value and in a state that fit. -/
def Yields {α : Type} (scan : Scanner α) (s : ScanState) (fits : α → ScanState → Prop) : Prop :=
  ∃ value last, scan s = some (.ok value, last) ∧ fits value last

/-- The scan comes to what a reader answers: the same value, in front of what the reader leaves, or
the same fault. -/
def Mirrors {α : Type} {bound : Nat} (scope : TypeScope) (text : String) (scan : Scanner α)
    (s : ScanState) : Except TypeFault (Reading Char α bound) → Prop
  | .ok reading => Yields scan s fun value last =>
    value = reading.value ∧ StandsBefore scope text reading.rest last
  | .error fault => ∃ last, scan s = some (.error fault, last) ∧ StopsWith scope text fault last

section Runs

variable {α β : Type} {scope : TypeScope} {text : String} {s last : ScanState}

theorem scan_bind_ok {scan : Scanner α} {next : α → Scanner β} {value : α}
    (h : scan s = some (.ok value, last)) : (scan >>= next) s = next value last := by
  change (scan s).bind _ = _
  rw [h]
  rfl

theorem scan_bind_error {scan : Scanner α} {next : α → Scanner β} {fault : TypeFault}
    (h : scan s = some (.error fault, last)) :
    (scan >>= next) s = some (.error fault, last) := by
  change (scan s).bind _ = _
  rw [h]
  rfl

theorem Yields.bind {scan : Scanner α} {next : α → Scanner β} {fits : α → ScanState → Prop}
    {goal : β → ScanState → Prop} (h : Yields scan s fits)
    (hnext : ∀ value last, fits value last → Yields (next value) last goal) :
    Yields (scan >>= next) s goal := by
  obtain ⟨value, last, hscan, hfits⟩ := h
  obtain ⟨found, final, hfound, hgoal⟩ := hnext value last hfits
  exact ⟨found, final, (scan_bind_ok hscan).trans hfound, hgoal⟩

theorem yields_pure {value : α} {fits : α → ScanState → Prop} (h : fits value s) :
    Yields (pure value) s fits :=
  ⟨value, s, rfl, h⟩

variable {bound larger : Nat}

/-- A step that no reader makes does not count. -/
theorem Yields.mirrors {scan : Scanner β} {next : β → Scanner α} {fits : β → ScanState → Prop}
    {answer : Except TypeFault (Reading Char α bound)} (h : Yields scan s fits)
    (hnext : ∀ value last, fits value last → Mirrors scope text (next value) last answer) :
    Mirrors scope text (scan >>= next) s answer := by
  obtain ⟨value, last, hscan, hfits⟩ := h
  have hmirrors := hnext value last hfits
  cases answer with
  | ok reading =>
    obtain ⟨found, final, hfound, hgoal⟩ := hmirrors
    exact ⟨found, final, (scan_bind_ok hscan).trans hfound, hgoal⟩
  | error fault =>
    obtain ⟨final, hfound, hstops⟩ := hmirrors
    exact ⟨final, (scan_bind_ok hscan).trans hfound, hstops⟩

/-- Scans in a row come to what readers in a row answer. -/
theorem Mirrors.bind {scan : Scanner β} {next : β → Scanner α}
    {first : Except TypeFault (Reading Char β larger)}
    {goesOn : Reading Char β larger → Except TypeFault (Reading Char α bound)}
    (h : Mirrors scope text scan s first)
    (hnext : ∀ reading last, first = .ok reading → StandsBefore scope text reading.rest last →
      Mirrors scope text (next reading.value) last (goesOn reading)) :
    Mirrors scope text (scan >>= next) s (first >>= goesOn) := by
  cases first with
  | ok reading =>
    refine Yields.mirrors h fun value last hfits => ?_
    obtain ⟨rfl, hlast⟩ := hfits
    exact hnext reading last rfl hlast
  | error fault =>
    obtain ⟨last, hscan, hstops⟩ := h
    exact ⟨last, scan_bind_error hscan, hstops⟩

theorem mirrors_pure {reading : Reading Char α bound} {value : α} (hvalue : value = reading.value)
    (h : StandsBefore scope text reading.rest s) :
    Mirrors scope text (pure value) s (pure reading) :=
  ⟨value, s, rfl, hvalue, h⟩

/-- The same reading under another bound counts as the same answer. -/
theorem Mirrors.rebound {scan : Scanner α} {answer : Except TypeFault (Reading Char α larger)}
    {change : Reading Char α larger → Reading Char α bound} (h : Mirrors scope text scan s answer)
    (hchange : ∀ reading,
      (change reading).value = reading.value ∧ (change reading).rest = reading.rest) :
    Mirrors scope text scan s (answer >>= fun reading => pure (change reading)) := by
  cases answer with
  | error fault => exact h
  | ok reading =>
    obtain ⟨value, last, hscan, hvalue, hrest⟩ := h
    obtain ⟨hsame, hsame'⟩ := hchange reading
    exact ⟨value, last, hscan, hvalue.trans hsame.symm, hsame' ▸ hrest⟩

theorem mirrors_throw {fault : TypeFault} (h : StopsWith scope text fault s) :
    Mirrors scope text (throw fault : Scanner α) s
      (throw fault : Except TypeFault (Reading Char α bound)) :=
  ⟨s, rfl, h⟩

/-- A scan that mirrors a reader ends with the reader's answer, and all that it did is sound. -/
theorem Mirrors.exists_end {scan : Scanner α} {answer : Except TypeFault (Reading Char α bound)}
    (h : Mirrors scope text scan s answer) :
    ∃ last, scan s = some (answer.map Reading.value, last) ∧
      (∀ step ∈ last.steps, step.IsSound scope text) ∧
      ∀ fault, answer = .error fault → fault.Fits text last := by
  cases answer with
  | ok reading =>
    obtain ⟨_, last, hscan, rfl, hlast⟩ := h
    exact ⟨last, hscan, hlast.sound, by simp⟩
  | error fault =>
    obtain ⟨last, hscan, hstops⟩ := h
    refine ⟨last, hscan, hstops.sound, ?_⟩
    rintro _ ⟨⟩
    exact hstops.fits

end Runs

/-! ## Single steps -/

namespace Scanner

section Steps

variable {scope : TypeScope} {text : String} {cs rest : List Char} {s : ScanState} {turns : Nat}

theorem yields_position : Yields position s fun value last => s.position = value ∧ s = last :=
  ⟨s.position, s, rfl, rfl, rfl⟩

theorem yields_advance {c : Char} (h : StandsBefore scope text (c :: rest) s) :
    Yields (advance c) s fun _ last => StandsBefore scope text rest last :=
  ⟨(), _, rfl, h.advance⟩

theorem yields_record {step : ScanStep} (h : StandsBefore scope text rest s)
    (hstep : step.IsSound scope text) :
    Yields (record step) s fun _ last => StandsBefore scope text rest last :=
  ⟨(), _, rfl, h.record hstep⟩

/-- A part of the text is cut out. -/
theorem yields_cut {before part behind : String} (h : StandsBefore scope text rest s)
    (htext : text = before ++ (part ++ behind)) {start stop : Nat}
    (hstart : start = before.utf8ByteSize) (hstop : stop = start + part.utf8ByteSize) :
    Yields (cut text start stop) s fun found last =>
      found = part ∧ StandsBefore scope text rest last := by
  subst hstart hstop
  have hstop := isValid_of_append (htext.trans String.append_assoc.symm)
  rw [String.utf8ByteSize_append] at hstop
  have hstep : ScanStep.IsSound scope text
      (.cut before.utf8ByteSize (before.utf8ByteSize + part.utf8ByteSize)) :=
    ⟨Nat.le_add_right _ _, isValid_of_append htext, hstop⟩
  refine (yields_record h hstep).bind fun _ last hlast => ⟨part, last, ?_, rfl, hlast⟩
  rw [cut?_eq_some htext]
  rfl

theorem yields_peek (h : StandsBefore scope text rest s) :
    Yields (peek text) s fun next last =>
      next = rest.head? ∧ StandsBefore scope text rest last := by
  obtain ⟨before, htext, hposition⟩ := h.place
  have hwhole : text = before ++ (String.ofList rest ++ "") := by rw [htext, String.append_empty]
  have hstop : text.utf8ByteSize = s.position + (String.ofList rest).utf8ByteSize := by
    rw [← utf8Length_eq, h.position_add]
  refine yields_position.bind ?_
  rintro _ _ ⟨rfl, rfl⟩
  refine (yields_cut h hwhole hposition hstop).bind ?_
  rintro _ last ⟨rfl, hlast⟩
  exact yields_pure ⟨by simp, hlast⟩

/-- The scan stands behind the longest run of characters.  A turn for each character that is left,
and one for the end, suffice. -/
theorem yields_skipWhile (p : Char → Bool) (h : StandsBefore scope text rest s)
    (hturns : rest.length < turns) :
    Yields (skipWhile p text turns) s fun _ last =>
      StandsBefore scope text (rest.dropWhile p) last := by
  induction rest generalizing s turns with
  | nil =>
    obtain ⟨turns, rfl⟩ := Nat.exists_eq_add_one.2 (Nat.zero_lt_of_lt hturns)
    rw [skipWhile]
    refine (yields_peek h).bind ?_
    rintro _ last ⟨rfl, hlast⟩
    exact yields_pure hlast
  | cons c rest ih =>
    obtain ⟨turns, rfl⟩ := Nat.exists_eq_add_one.2 (Nat.zero_lt_of_lt hturns)
    rw [skipWhile]
    refine (yields_peek h).bind ?_
    rintro _ last ⟨rfl, hlast⟩
    by_cases hc : p c = true
    · simp only [List.head?_cons, hc, if_true, List.dropWhile_cons]
      exact (yields_advance hlast).bind fun _ _ hadvanced =>
        ih hadvanced (Nat.lt_of_succ_lt_succ hturns)
    · simp only [List.head?_cons, hc, List.dropWhile_cons]
      exact yields_pure hlast

theorem yields_skipBlanks (h : StandsBefore scope text rest s) (hturns : rest.length < turns) :
    Yields (skipBlanks text turns) s fun _ last =>
      StandsBefore scope text (Java.skipBlanks rest) last :=
  yields_skipWhile _ h hturns

/-- The longest run of characters is cut out. -/
theorem yields_run (p : Char → Bool) (h : StandsBefore scope text rest s)
    (hturns : rest.length < turns) :
    Yields (run p text turns) s fun word last =>
      word = String.ofList (rest.takeWhile p) ∧
        StandsBefore scope text (rest.dropWhile p) last := by
  obtain ⟨before, htext, hposition⟩ := h.place
  have hrun := List.takeWhile_append_dropWhile (p := p) (l := rest)
  have hparts : text =
      before ++ (String.ofList (rest.takeWhile p) ++ String.ofList (rest.dropWhile p)) := by
    rw [← String.ofList_append, hrun, htext]
  refine yields_position.bind ?_
  rintro _ _ ⟨rfl, rfl⟩
  refine (yields_skipWhile p h hturns).bind fun _ skipped hskipped => ?_
  refine yields_position.bind ?_
  rintro _ _ ⟨rfl, rfl⟩
  have hstop : skipped.position =
      s.position + (String.ofList (rest.takeWhile p)).utf8ByteSize := by
    have hbytes := congrArg utf8Length hrun
    rw [utf8Length_append, utf8Length_eq (rest.takeWhile p)] at hbytes
    have := h.position_add
    have := hskipped.position_add
    omega
  exact yields_cut hskipped hparts hposition hstop

/-- A character that comes next is eaten. -/
theorem yields_eat_some {c : Char} (h : StandsBefore scope text cs s)
    (hdrop : dropChar? c cs = some rest) :
    Yields (eat c text) s fun eaten last => eaten = true ∧ StandsBefore scope text rest last := by
  obtain rfl := dropChar?_eq_some_iff.1 hdrop
  refine (yields_peek h).bind ?_
  rintro _ last ⟨rfl, hlast⟩
  simp only [List.head?_cons, beq_self_eq_true, if_true]
  exact (yields_advance hlast).bind fun _ _ hadvanced => yields_pure ⟨rfl, hadvanced⟩

theorem head?_beq_eq_isSome_dropChar? (c : Char) (cs : List Char) :
    (cs.head? == some c) = (dropChar? c cs).isSome := by
  cases cs with
  | nil => rfl
  | cons d cs =>
    rw [dropChar?]
    by_cases hd : d = c <;> simp [hd]

/-- A character that does not come next is left. -/
theorem yields_eat_none {c : Char} (h : StandsBefore scope text cs s)
    (hdrop : dropChar? c cs = none) :
    Yields (eat c text) s fun eaten last => eaten = false ∧ StandsBefore scope text cs last := by
  refine (yields_peek h).bind ?_
  rintro _ last ⟨rfl, hlast⟩
  rw [head?_beq_eq_isSome_dropChar?, hdrop]
  exact yields_pure ⟨rfl, hlast⟩

variable {α : Type} {bound : Nat}

theorem stuckAt_eq {c : Char} (h : StandsBefore scope text rest s) (hc : rest.head? = some c) :
    stuckAt text.toList rest = .unexpected s.position c := by
  obtain ⟨more, rfl⟩ := List.head?_eq_some_iff.1 hc
  rw [stuckAt, h.position_eq]

/-- The character in front of the scan stands where the scan does. -/
theorem fits_unexpected {c : Char} (h : StandsBefore scope text rest s) (hc : rest.head? = some c)
    (last : ScanState) : TypeFault.Fits text last (.unexpected s.position c) := by
  obtain ⟨more, rfl⟩ := List.head?_eq_some_iff.1 hc
  obtain ⟨before, htext, hposition⟩ := h.place
  refine ⟨before, String.ofList more, ?_, hposition⟩
  rw [htext, String.append_assoc, String.ofList_cons]

/-- A scan that is stuck has the fault of a reader that is stuck there. -/
theorem mirrors_stuck (h : StandsBefore scope text rest s) :
    Mirrors scope text (stuck rest.head?) s
      (.error (stuckAt text.toList rest) : Except TypeFault (Reading Char α bound)) := by
  cases rest with
  | nil =>
    have hend := h.position_add
    exact mirrors_throw ⟨hend, h.sound⟩
  | cons c rest =>
    have hfits := fits_unexpected h rfl s
    refine yields_position.mirrors ?_
    rintro _ _ ⟨rfl, rfl⟩
    rw [stuckAt_eq h rfl]
    exact mirrors_throw ⟨hfits, h.sound⟩

/-- The scan may have skipped blanks in front of which the reader still stands. -/
theorem mirrors_expect {c : Char} (h : StandsBefore scope text cs s)
    (hturns : cs.length < turns) (hskip : Java.skipBlanks cs = Java.skipBlanks rest) :
    Mirrors scope text (expect c text turns) s (readChar text.toList c rest) := by
  refine (yields_skipBlanks h hturns).mirrors fun _ skipped hskipped => ?_
  rw [hskip] at hskipped
  refine (yields_peek hskipped).mirrors ?_
  rintro _ peeked ⟨rfl, hpeeked⟩
  rw [head?_beq_eq_isSome_dropChar?, readChar]
  split
  · next heat =>
    split
    · next more hmore =>
      rw [dropChar?_eq_some_iff.1 hmore] at hpeeked
      obtain ⟨_, last, hlast, hbefore⟩ := yields_advance hpeeked
      exact ⟨(), last, hlast, rfl, hbefore⟩
    · next hnone => simp [hnone] at heat
  · next heat =>
    split
    · next more hmore => simp [hmore] at heat
    · exact mirrors_stuck hpeeked

/-- A run of identifier characters that is no identifier begins with a number. -/
theorem head_of_not_spellsIdentifier {cs : List Char} (hpart : ∀ c ∈ cs, isIdentifierPart c = true)
    (hne : cs ≠ []) (h : spellsIdentifier cs = false) :
    ∃ c letters, cs = c :: letters ∧ Unicode.isAlphanumeric c = true ∧
      Unicode.isAlphabetic c = false := by
  cases cs with
  | nil => exact absurd rfl hne
  | cons c letters =>
    obtain ⟨hc, hletters⟩ := List.forall_mem_cons.1 hpart
    have hall : letters.all isIdentifierPart = true := List.all_eq_true.2 hletters
    simp only [spellsIdentifier, hall, Bool.and_true, isIdentifierStart, Bool.or_eq_false_iff] at h
    refine ⟨c, letters, rfl, ?_, h.1.1⟩
    simpa [isIdentifierPart, h.1.2, h.2] using hc

theorem mirrors_identifier (h : StandsBefore scope text rest s) (hturns : rest.length < turns) :
    Mirrors scope text (identifier text turns) s (readIdentifier text.toList rest) := by
  refine (yields_run isIdentifierPart h hturns).mirrors ?_
  rintro _ found ⟨rfl, hfound⟩
  simp only [readIdentifier, isIdentifier, String.toList_ofList]
  split
  · next hspelled => exact mirrors_pure rfl hfound
  · next hspelled =>
    refine (yields_peek hfound).mirrors ?_
    rintro _ last ⟨rfl, hlast⟩
    have hrun := List.takeWhile_append_dropWhile (p := isIdentifierPart) (l := rest)
    by_cases hempty : rest.takeWhile isIdentifierPart = []
    · rw [hempty, List.nil_append] at hrun
      rw [hrun] at hlast ⊢
      rw [if_pos (by simp [hempty]), if_pos (by simp [hempty])]
      exact mirrors_stuck hlast
    · obtain ⟨before, htext, -⟩ := h.place
      have hpart : ∀ c ∈ rest.takeWhile isIdentifierPart, isIdentifierPart c = true :=
        List.all_eq_true.1 List.all_takeWhile
      have hnumber := head_of_not_spellsIdentifier hpart hempty (by simpa using hspelled)
      have hfits : TypeFault.Fits text last
          (.invalidIdentifier (String.ofList (rest.takeWhile isIdentifierPart))) := by
        refine ⟨by simpa using hnumber, before, String.ofList (rest.dropWhile isIdentifierPart), ?_⟩
        rw [htext, String.append_assoc, ← String.ofList_append, hrun]
      rw [if_neg (by simpa using hempty), if_neg (by simpa using hempty)]
      exact mirrors_throw ⟨hfits, hlast.sound⟩

end Steps

end Scanner

end ValueBuilder.Java
