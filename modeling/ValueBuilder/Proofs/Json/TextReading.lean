import ValueBuilder.Proofs.Json.Reading

/-!
# Reading texts

However the characters of a text are written, the reader of texts answers the text.  A character by
itself is passed on byte by byte, and none of its bytes is a quote, a backslash or a control
character, because all bytes of a character beyond ASCII are.
-/

namespace ValueBuilder.Json

open Grammar

/-! ## Escapes -/

theorem hexValue?_eq_some {n : Nat} {b : UInt8} (h : HexDigit n b) : hexValue? b = some n := by
  have hdecimal : ∀ n < 10, hexValue? (UInt8.ofNat ('0'.toNat + n)) = some n := by decide
  have hlower : ∀ n < 6, hexValue? (UInt8.ofNat ('a'.toNat + n)) = some (10 + n) := by decide
  have hupper : ∀ n < 6, hexValue? (UInt8.ofNat ('A'.toNat + n)) = some (10 + n) := by decide
  cases h with
  | decimal hn => exact hdecimal _ hn
  | lower hn => exact hlower _ hn
  | upper hn => exact hupper _ hn

theorem reads_readHex {n : Nat} {digits rest : List UInt8} (h : UnitText n digits) :
    Reads (readHex (digits ++ rest)) n rest := by
  obtain ⟨ha, hb, hc, hd⟩ := h
  simp [readHex, hexNumber?, hexValue?_eq_some ha, hexValue?_eq_some hb, hexValue?_eq_some hc,
    hexValue?_eq_some hd, Nat.mul_comm]
  exact reads_pure rfl rfl

/-- A code point is never a surrogate. -/
theorem isSurrogate_toNat (c : Char) :
    opensPair c.toNat = false ∧ closesPair c.toNat = false := by
  have hvalid : c.toNat < 0xD800 ∨ 0xDFFF < c.toNat ∧ c.toNat < 0x110000 := c.valid
  simp only [opensPair, closesPair, Bool.and_eq_false_iff, decide_eq_false_iff_not]
  omega

theorem reads_readUnits_code {c : Char} {digits rest : List UInt8}
    (h : UnitText c.toNat digits) : Reads (readUnits (digits ++ rest)) c rest := by
  obtain ⟨hopens, hcloses⟩ := isSurrogate_toNat c
  refine (reads_readHex h).bind fun _ => ?_
  simp only [hcloses, hopens]
  exact reads_pure (Char.ofNat_toNat c) rfl

/-- Two surrogates that belong together are read as one character. -/
theorem reads_readUnits_pair {c : Char} {first second : Nat} {opening closing rest : List UInt8}
    (hopens : opensPair first = true) (hcloses : closesPair second = true)
    (hcode : pairCode first second = c.toNat) (hopening : UnitText first opening)
    (hclosing : UnitText second closing) :
    Reads (readUnits (opening ++ byte '\\' :: byte 'u' :: (closing ++ rest))) c rest := by
  have hfirst : closesPair first = false := by
    simp only [opensPair, closesPair, Bool.and_eq_true, Bool.and_eq_false_iff, decide_eq_true_eq,
      decide_eq_false_iff_not] at hopens ⊢
    omega
  refine (reads_readHex hopening).bind fun _ => ?_
  simp only [hfirst, hopens]
  refine reads_symbol.bind fun _ => reads_symbol.bind fun _ => ?_
  refine (reads_readHex hclosing).bind fun _ => ?_
  simp only [hcloses, hcode, if_true]
  exact reads_pure (Char.ofNat_toNat c) rfl

/-- The two surrogates of a character give its code point back. -/
theorem pairCode_surrogates {upper lower : Nat} (hupper : upper < 0x400) (hlower : lower < 0x400) :
    opensPair (0xD800 + upper) = true ∧ closesPair (0xDC00 + lower) = true ∧
      pairCode (0xD800 + upper) (0xDC00 + lower) = 0x10000 + upper * 0x400 + lower := by
  simp only [opensPair, closesPair, Bool.and_eq_true, decide_eq_true_eq]
  unfold pairCode
  omega

/-! ## Characters -/

/-- A byte that a text holds by itself. -/
structure IsPlain (b : UInt8) : Prop where
  quote : b ≠ byte '"'
  backslash : b ≠ byte '\\'
  control : isControl b = false

/-- Bytes beyond ASCII are plain. -/
theorem isPlain_of_le {b : UInt8} (h : 0x80 ≤ b.toNat) : IsPlain b where
  quote := by rintro rfl; exact absurd h (by decide)
  backslash := by rintro rfl; exact absurd h (by decide)
  control := decide_eq_false (by omega)

theorem isPlain_ofNat {c : Char} (hascii : c.toNat < 0x80) (hquote : c ≠ '"')
    (hbackslash : c ≠ '\\') (hcontrol : 0x20 ≤ c.toNat) : IsPlain (UInt8.ofNat c.toNat) := by
  have htoNat : (UInt8.ofNat c.toNat).toNat = c.toNat :=
    UInt8.toNat_ofNat_of_lt' (Nat.lt_trans hascii (by decide))
  constructor
  · exact fun h => hquote (Char.toNat_inj.1 (htoNat.symm.trans (congrArg UInt8.toNat h)))
  · exact fun h => hbackslash (Char.toNat_inj.1 (htoNat.symm.trans (congrArg UInt8.toNat h)))
  · exact decide_eq_false (by rw [htoNat]; omega)

/-- All bytes of a character beyond ASCII are beyond ASCII. -/
theorem le_of_mem_utf8EncodeChar {c : Char} (hc : 0x80 ≤ c.toNat) {b : UInt8}
    (hb : b ∈ String.utf8EncodeChar c) : 0x80 ≤ b.toNat := by
  have hbyte : ∀ n, 0x80 ≤ n → n < 0x100 → 0x80 ≤ (UInt8.ofNat n).toNat := by
    intro n hn hn'
    rwa [UInt8.toNat_ofNat_of_lt' hn']
  simp only [String.utf8EncodeChar] at hb
  split at hb
  · next hascii => exact absurd hc (Nat.not_le.2 (Nat.lt_succ_of_le hascii))
  · split at hb
    · simp only [List.mem_cons, List.not_mem_nil, or_false] at hb
      rcases hb with rfl | rfl <;> exact hbyte _ (by omega) (by omega)
    · split at hb
      · simp only [List.mem_cons, List.not_mem_nil, or_false] at hb
        rcases hb with rfl | rfl | rfl <;> exact hbyte _ (by omega) (by omega)
      · simp only [List.mem_cons, List.not_mem_nil, or_false] at hb
        rcases hb with rfl | rfl | rfl | rfl <;> exact hbyte _ (by omega) (by omega)

theorem isPlain_of_mem_utf8EncodeChar {c : Char} (hquote : c ≠ '"') (hbackslash : c ≠ '\\')
    (hcontrol : 0x20 ≤ c.toNat) {b : UInt8} (hb : b ∈ String.utf8EncodeChar c) : IsPlain b := by
  by_cases hc : c.toNat < 0x80
  · have hbytes : String.utf8EncodeChar c = [UInt8.ofNat c.toNat] := if_pos (Nat.le_of_lt_succ hc)
    obtain rfl := List.mem_singleton.1 (hbytes ▸ hb)
    exact isPlain_ofNat hc hquote hbackslash hcontrol
  · exact isPlain_of_le (le_of_mem_utf8EncodeChar (Nat.not_lt.1 hc) hb)

theorem reads_readBody_quote {rest : List UInt8} : Reads (readBody (byte '"' :: rest)) [] rest := by
  rw [readBody]
  exact reads_pure rfl rfl

variable {body bytes rest : List UInt8}

theorem Reads.readBody_plain {b : UInt8} (hb : IsPlain b) (h : Reads (readBody bytes) body rest) :
    Reads (readBody (b :: bytes)) (b :: body) rest := by
  rw [readBody]
  simp only [beq_eq_false_iff_ne.2 hb.quote, beq_eq_false_iff_ne.2 hb.backslash, hb.control]
  exact h.bind fun _ => reads_pure rfl rfl

theorem Reads.readBody_plains {plains : List UInt8} (hplains : ∀ b ∈ plains, IsPlain b)
    (h : Reads (readBody bytes) body rest) :
    Reads (readBody (plains ++ bytes)) (plains ++ body) rest := by
  induction plains with
  | nil => exact h
  | cons b plains ih =>
    obtain ⟨hb, hplains⟩ := List.forall_mem_cons.1 hplains
    exact (ih hplains).readBody_plain hb

theorem Reads.readBody_escape {c : Char} {escape : List UInt8}
    (hescape : Reads (readEscape escape) c bytes) (h : Reads (readBody bytes) body rest) :
    Reads (readBody (byte '\\' :: escape)) (String.utf8EncodeChar c ++ body) rest := by
  rw [readBody]
  exact hescape.bind fun _ => h.bind fun _ => reads_pure rfl rfl

theorem reads_readEscape_letter {letter : UInt8} {c : Char} (hu : letter ≠ byte 'u')
    (hc : letterEscape? letter = some c) : Reads (readEscape (letter :: rest)) c rest := by
  rw [readEscape]
  simp only [beq_eq_false_iff_ne.2 hu, hc]
  exact reads_pure rfl rfl

theorem Reads.readEscape_units {c : Char} {units : List UInt8}
    (h : Reads (readUnits units) c rest) :
    Reads (readEscape (byte 'u' :: units)) c rest :=
  h.map fun _ => ⟨rfl, rfl⟩

/-- Behind a written character the body goes on. -/
theorem Reads.readBody_char {c : Char} {first : List UInt8} (hfirst : CharText c first)
    (h : Reads (readBody bytes) body rest) :
    Reads (readBody (first ++ bytes)) (String.utf8EncodeChar c ++ body) rest := by
  cases hfirst with
  | itself hquote hbackslash hcontrol =>
    exact h.readBody_plains fun b => isPlain_of_mem_utf8EncodeChar hquote hbackslash hcontrol
  | code hdigits => exact (reads_readUnits_code hdigits).readEscape_units.readBody_escape h
  | pair hupper hlower hc hopening hclosing =>
    obtain ⟨hopens, hcloses, hcode⟩ := pairCode_surrogates hupper hlower
    rw [List.append_assoc, List.append_assoc]
    exact (reads_readUnits_pair hopens hcloses (hcode.trans hc.symm) hopening
      hclosing).readEscape_units.readBody_escape h
  | quote | backslash | slash | backspace | formFeed | lineFeed | carriageReturn | tab =>
    exact (reads_readEscape_letter (by decide) rfl).readBody_escape h

/-! ## Texts -/

theorem reads_readBody {cs : List Char} {text : List UInt8} (h : BodyText cs text) :
    Reads (readBody (text ++ byte '"' :: rest)) (cs.flatMap String.utf8EncodeChar) rest := by
  induction h with
  | nil => exact reads_readBody_quote
  | cons hfirst _ ih =>
    rw [List.append_assoc, List.flatMap_cons]
    exact ih.readBody_char hfirst

theorem reads_readText {s : String} {text : List UInt8} (h : BodyText s.toList text) :
    Reads (readText (text ++ byte '"' :: rest)) s rest := by
  refine (reads_readBody h).bind fun _ => ?_
  simp only [ofUtf8?_utf8EncodeChar]
  exact reads_pure rfl rfl

end ValueBuilder.Json
