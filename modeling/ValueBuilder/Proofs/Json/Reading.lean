import ValueBuilder.Json.Decoder
import ValueBuilder.Proofs.Json.Grammar

/-!
# What the readers of JSON answer

`Reads` says what a reader answers and what it leaves.  The lemmas of this module follow a reader
over blanks, symbols and words, and tell what stands next in a bracketed list.
-/

namespace ValueBuilder.Json

open Grammar

/-! ## What readers answer -/

/-- A reader answers a value and leaves a rest. -/
def Reads {α : Type} {bound : Nat} (answer : Except Fault (Reading UInt8 α bound)) (value : α)
    (rest : List UInt8) : Prop :=
  ∃ shorter, answer = .ok ⟨value, rest, shorter⟩

section Reads

variable {α β γ : Type} {bound larger : Nat} {value : α} {rest : List UInt8}

theorem reads_pure {reading : Reading UInt8 α bound} (hvalue : reading.value = value)
    (hrest : reading.rest = rest) : Reads (pure reading) value rest := by
  subst hvalue hrest
  exact ⟨reading.shorter, rfl⟩

/-- A reader goes on behind what another one left. -/
theorem Reads.bind {first : Except Fault (Reading UInt8 β larger)}
    {next : Reading UInt8 β larger → Except Fault (Reading UInt8 α bound)} {found : β}
    {behind : List UInt8} (hfirst : Reads first found behind)
    (hnext : ∀ shorter, Reads (next ⟨found, behind, shorter⟩) value rest) :
    Reads (first >>= next) value rest := by
  obtain ⟨shorter, rfl⟩ := hfirst
  exact hnext shorter

/-- A reader goes on with the outcome of a step that takes nothing. -/
theorem reads_bind_of_ok {first : Except Fault γ} {x : γ}
    {next : γ → Except Fault (Reading UInt8 α bound)} (hfirst : first = .ok x)
    (hnext : Reads (next x) value rest) : Reads (first >>= next) value rest := by
  subst hfirst
  exact hnext

theorem Reads.map {answer : Except Fault (Reading UInt8 β larger)} {found : β}
    {behind : List UInt8} {f : Reading UInt8 β larger → Reading UInt8 α bound}
    (h : Reads answer found behind)
    (hf : ∀ shorter, (f ⟨found, behind, shorter⟩).value = value ∧
      (f ⟨found, behind, shorter⟩).rest = rest) :
    Reads (answer.map f) value rest := by
  obtain ⟨shorter, rfl⟩ := h
  exact reads_pure (hf shorter).1 (hf shorter).2

end Reads

/-! ## Blanks -/

theorem isBlank_iff {b : UInt8} : isBlank b = true ↔ b ∈ ascii [' ', '\n', '\t', '\r'] := by
  simp [isBlank, or_assoc]

theorem skipBlanks_append {blanks bytes : List UInt8} (h : Blanks blanks) :
    skipBlanks (blanks ++ bytes) = skipBlanks bytes :=
  List.dropWhile_append_of_pos fun b hb => isBlank_iff.2 (h b hb)

/-- What stands behind blanks is reached when its first byte is none. -/
theorem skipBlanks_append_cons {blanks bytes : List UInt8} {b : UInt8} (h : Blanks blanks)
    (hb : isBlank b = false) : skipBlanks (blanks ++ b :: bytes) = b :: bytes := by
  rw [skipBlanks_append h, skipBlanks, List.dropWhile_cons_of_neg (by simp [hb])]

theorem skipBlanks_eq_nil {blanks : List UInt8} (h : Blanks blanks) : skipBlanks blanks = [] := by
  rw [← List.append_nil blanks, skipBlanks_append h]
  rfl

theorem reads_behindBlanks {α : Type} {read : Decoder α} {bytes core rest : List UInt8} {value : α}
    (hcore : skipBlanks bytes = core) (h : Reads (read core) value rest) :
    Reads (behindBlanks read bytes) value rest := by
  subst hcore
  exact h.map fun _ => ⟨rfl, rfl⟩

/-! ## Symbols and words -/

@[simp]
theorem dropSymbol?_cons_self {c : Char} {bytes : List UInt8} :
    dropSymbol? c (byte c :: bytes) = some bytes := by
  simp [dropSymbol?]

theorem eq_of_dropSymbol?_cons {c : Char} {bytes found : List UInt8}
    (h : dropSymbol? c (byte c :: bytes) = some found) : found = bytes := by
  rw [dropSymbol?_cons_self] at h
  exact (Option.some.inj h).symm

theorem dropSymbol?_cons_of_ne {c : Char} {b : UInt8} {bytes : List UInt8} (h : b ≠ byte c) :
    dropSymbol? c (b :: bytes) = none := by
  simp [dropSymbol?, h]

theorem reads_symbol {c : Char} {rest : List UInt8} :
    Reads (symbol c (byte c :: rest)) () rest := by
  rw [symbol]
  split
  · next found h => exact reads_pure rfl (eq_of_dropSymbol?_cons h)
  · next h => simp at h

theorem reads_spacedSymbol {c : Char} {blanks rest : List UInt8} (hblanks : Blanks blanks)
    (hc : isBlank (byte c) = false) :
    Reads (spacedSymbol c (blanks ++ byte c :: rest)) () rest := by
  have hskip : skipBlanks (blanks ++ byte c :: rest) = byte c :: rest :=
    skipBlanks_append_cons hblanks hc
  rw [spacedSymbol]
  split
  · next found h => exact reads_pure rfl (eq_of_dropSymbol?_cons (hskip ▸ h))
  · next h => simp [hskip] at h

theorem reads_word {first : Char} {others : List Char} {rest : List UInt8} :
    Reads (word first others (ascii (first :: others) ++ rest)) () rest := by
  induction others generalizing first with
  | nil => exact reads_symbol
  | cons second others ih =>
    refine reads_symbol.bind fun _ => ?_
    exact ih.bind fun _ => reads_pure rfl rfl

/-! ## Brackets -/

/-- The phrase starts with a byte that is no blank and not the given symbol. -/
def StartsApart (closing : Char) (phrase : List UInt8) : Prop :=
  ∃ b others, phrase = b :: others ∧ isBlank b = false ∧ b ≠ byte closing

section Brackets

variable {closing : Char} {blanks before behind item rest : List UInt8}

theorem StartsApart.skipBlanks (h : StartsApart closing item) (hblanks : Blanks blanks) :
    skipBlanks (blanks ++ (item ++ rest)) = item ++ rest := by
  obtain ⟨b, others, rfl, hb, -⟩ := h
  exact skipBlanks_append_cons hblanks hb

theorem StartsApart.dropSymbol? (h : StartsApart closing item) :
    dropSymbol? closing (item ++ rest) = none := by
  obtain ⟨b, others, rfl, -, hb⟩ := h
  exact dropSymbol?_cons_of_ne hb

theorem StartsApart.isEmpty (h : StartsApart closing item) : (item ++ rest).isEmpty = false := by
  obtain ⟨b, others, rfl, -⟩ := h
  rfl

theorem nextItem_closed {isFirst : Bool} (hblanks : Blanks blanks)
    (hclosing : isBlank (byte closing) = false) :
    ∃ shorter, nextItem closing isFirst (blanks ++ byte closing :: rest) =
      .ok (.closed rest shorter) := by
  have hskip : skipBlanks (blanks ++ byte closing :: rest) = byte closing :: rest :=
    skipBlanks_append_cons hblanks hclosing
  rw [nextItem]
  split
  · next found h =>
    rw [hskip] at h
    obtain rfl := eq_of_dropSymbol?_cons h
    exact ⟨by simp only [List.length_append, List.length_cons]; omega, rfl⟩
  · next h => simp [hskip] at h

theorem nextItem_first (hblanks : Blanks blanks) (hitem : StartsApart closing item) :
    ∃ notLonger, nextItem closing true (blanks ++ (item ++ rest)) =
      .ok (.item (item ++ rest) notLonger) := by
  have hskip : skipBlanks (blanks ++ (item ++ rest)) = item ++ rest := hitem.skipBlanks hblanks
  rw [nextItem]
  split
  · next found h => simp [hskip, hitem.dropSymbol?] at h
  · exact ⟨by simp only [List.length_append]; omega, by simp [hskip, hitem.isEmpty]⟩

theorem nextItem_next (hbefore : Blanks before) (hbehind : Blanks behind)
    (hcomma : byte ',' ≠ byte closing) (hitem : StartsApart closing item) :
    ∃ notLonger, nextItem closing false (before ++ byte ',' :: (behind ++ (item ++ rest))) =
      .ok (.item (item ++ rest) notLonger) := by
  have hskip : skipBlanks (before ++ byte ',' :: (behind ++ (item ++ rest))) =
      byte ',' :: (behind ++ (item ++ rest)) := skipBlanks_append_cons hbefore rfl
  rw [nextItem]
  split
  · next found h => simp [hskip, dropSymbol?_cons_of_ne hcomma] at h
  · rw [if_neg Bool.false_ne_true]
    split
    · next h => simp [hskip] at h
    · next found h =>
      rw [hskip] at h
      obtain rfl := eq_of_dropSymbol?_cons h
      exact ⟨by simp only [List.length_append, List.length_cons]; omega,
        by simp [hitem.skipBlanks hbehind, hitem.isEmpty, hitem.dropSymbol?]⟩

/-- In front of no items stands the closing bracket. -/
theorem nextItem_nil {α : Type} {Writes : α → List UInt8 → Prop} {isFirst : Bool}
    {text : List UInt8} (h : Items Writes closing isFirst [] text)
    (hclosing : isBlank (byte closing) = false) (rest : List UInt8) :
    ∃ shorter, nextItem closing isFirst (text ++ rest) = .ok (.closed rest shorter) := by
  cases h with
  | closed hblanks =>
    rw [List.append_assoc]
    exact nextItem_closed hblanks hclosing

/-- In front of items stands the first of them, and behind it the others. -/
theorem nextItem_cons {α : Type} {Writes : α → List UInt8 → Prop} {isFirst : Bool} {x : α}
    {xs : List α} {text : List UInt8} (h : Items Writes closing isFirst (x :: xs) text)
    (hcomma : byte ',' ≠ byte closing)
    (hstarts : ∀ item, Writes x item → StartsApart closing item) (rest : List UInt8) :
    ∃ item others notLonger, Writes x item ∧ Items Writes closing false xs others ∧
      nextItem closing isFirst (text ++ rest) =
        .ok (.item (item ++ (others ++ rest)) notLonger) := by
  cases h with
  | first hblanks hitem hothers =>
    rw [List.append_assoc, List.append_assoc]
    obtain ⟨notLonger, hnext⟩ := nextItem_first hblanks (hstarts _ hitem)
    exact ⟨_, _, notLonger, hitem, hothers, hnext⟩
  | next hbefore hbehind hitem hothers =>
    rw [List.append_assoc, List.append_assoc, List.append_assoc, List.append_assoc]
    obtain ⟨notLonger, hnext⟩ := nextItem_next hbefore hbehind hcomma (hstarts _ hitem)
    exact ⟨_, _, notLonger, hitem, hothers, hnext⟩

end Brackets

end ValueBuilder.Json
