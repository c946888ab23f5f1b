import Mathlib.Data.List.Forall2
import ValueBuilder.Proofs.Json.TextReading

/-!
# Reading values

A decoder is right about a JSON value when it answers the same wherever and however the value is
written.  Names and lists are put together from decoders that are right about their parts.
-/

namespace ValueBuilder.Json

open Grammar

/-- The decoder makes the answer of each text of the value, also behind blanks, and leaves what
follows. -/
def Decodes {α : Type} (decoder : Decoder α) (v : Value) (x : α) : Prop :=
  ∀ ⦃blanks text rest : List UInt8⦄, Blanks blanks → ValueText v text →
    Reads (decoder (blanks ++ (text ++ rest))) x rest

variable {α : Type} {decoder : Decoder α} {blanks rest : List UInt8}

/-! ## First bytes -/

/-- The first character of a value, however it is written. -/
def Value.opener : Value → Char
  | null => 'n'
  | boolean true => 't'
  | boolean false => 'f'
  | text _ => '"'
  | array _ => '['
  | object _ => '\x7b'

theorem isBlank_opener {v : Value} : isBlank (byte v.opener) = false := by
  rcases v with _ | (_ | _) | _ | _ | _ <;> rfl

theorem exists_eq_opener_cons {v : Value} {text : List UInt8} (h : ValueText v text) :
    ∃ others, text = byte v.opener :: others := by
  cases h with
  | text ht =>
    obtain ⟨hbody⟩ := ht
    exact ⟨_, rfl⟩
  | null | true | false | array | object => exact ⟨_, rfl⟩

theorem startsApart_of_opener {c : Char} {v : Value} {text : List UInt8} (h : ValueText v text)
    (hc : byte v.opener ≠ byte c) : StartsApart c text := by
  obtain ⟨others, rfl⟩ := exists_eq_opener_cons h
  exact ⟨_, others, rfl, isBlank_opener, hc⟩

theorem startsApart_bracket {v : Value} {text : List UInt8} (h : ValueText v text) :
    StartsApart ']' text :=
  startsApart_of_opener h (by
    rcases v with _ | (_ | _) | _ | _ | _ <;> simp only [Value.opener] <;> decide)

/-- A value other than `null` does not start like `null`. -/
theorem startsApart_null {v : Value} {text : List UInt8} (h : ValueText v text)
    (hv : v ≠ .null) : StartsApart 'n' text := by
  refine startsApart_of_opener h ?_
  rcases v with _ | (_ | _) | _ | _ | _
  · exact absurd rfl hv
  all_goals
    simp only [Value.opener]
    decide

@[simp]
theorem startsWith_cons_self {c : Char} {bytes : List UInt8} :
    startsWith c (byte c :: bytes) = true := by
  simp [startsWith]

theorem startsWith_cons_of_ne {c : Char} {b : UInt8} {bytes : List UInt8} (h : b ≠ byte c) :
    startsWith c (b :: bytes) = false := by
  simp [startsWith, dropSymbol?_cons_of_ne h]

/-! ## Plain values -/

theorem exists_body_of_quotedText {s : String} {t : List UInt8} (h : QuotedText s t) :
    ∃ body, BodyText s.toList body ∧
      ∀ rest, t ++ rest = byte '"' :: (body ++ byte '"' :: rest) := by
  obtain ⟨hbody⟩ := h
  exact ⟨_, hbody, fun rest => by simp⟩

theorem reads_text {s : String} {t : List UInt8} (hblanks : Blanks blanks) (h : QuotedText s t) :
    Reads (text (blanks ++ (t ++ rest))) s rest := by
  obtain ⟨body, hbody, htext⟩ := exists_body_of_quotedText h
  rw [htext]
  refine reads_behindBlanks (skipBlanks_append_cons hblanks rfl) ?_
  split
  · next found h =>
    obtain rfl := eq_of_dropSymbol?_cons h
    exact (reads_readText hbody).map fun _ => ⟨rfl, rfl⟩
  · next h => simp at h

theorem reads_key {s : String} {t : List UInt8} (hblanks : Blanks blanks) (h : QuotedText s t) :
    Reads (key (blanks ++ (t ++ rest))) s rest := by
  obtain ⟨body, hbody, htext⟩ := exists_body_of_quotedText h
  rw [htext]
  refine reads_behindBlanks (skipBlanks_append_cons hblanks rfl) ?_
  split
  · next found h =>
    obtain rfl := eq_of_dropSymbol?_cons h
    exact (reads_readText hbody).map fun _ => ⟨rfl, rfl⟩
  · next h => simp at h

theorem decodes_text {s : String} : Decodes text (.text s) s := by
  intro blanks t rest hblanks htext
  cases htext with
  | text ht => exact reads_text hblanks ht

theorem decodes_boolean {b : Bool} : Decodes boolean (.boolean b) b := by
  intro blanks t rest hblanks htext
  cases htext with
  | true =>
    refine reads_behindBlanks (skipBlanks_append_cons hblanks rfl) ?_
    rw [if_pos startsWith_cons_self]
    exact reads_word.map fun _ => ⟨rfl, rfl⟩
  | false =>
    refine reads_behindBlanks (skipBlanks_append_cons hblanks rfl) ?_
    rw [if_neg (by simp [startsWith_cons_of_ne (show byte 'f' ≠ byte 't' by decide)]),
      if_pos startsWith_cons_self]
    exact reads_word.map fun _ => ⟨rfl, rfl⟩

theorem decodes_unit : Decodes unit .null () := by
  intro blanks t rest hblanks htext
  cases htext with
  | null =>
    refine reads_behindBlanks (skipBlanks_append_cons hblanks rfl) ?_
    rw [if_pos startsWith_cons_self]
    exact reads_word

theorem decodes_nullable_null : Decodes (nullable decoder) .null none := by
  intro blanks t rest hblanks htext
  cases htext with
  | null =>
    refine reads_behindBlanks (skipBlanks_append_cons hblanks rfl) ?_
    rw [if_pos startsWith_cons_self]
    exact reads_word.map fun _ => ⟨rfl, rfl⟩

theorem Decodes.nullable {v : Value} {x : α} (h : Decodes decoder v x) (hv : v ≠ .null) :
    Decodes (nullable decoder) v (some x) := by
  intro blanks t rest hblanks htext
  have hstart := startsApart_null htext hv
  refine reads_behindBlanks (hstart.skipBlanks hblanks) ?_
  rw [if_neg (by simp [startsWith, hstart.dropSymbol?])]
  exact (h blanks_nil htext).map fun _ => ⟨rfl, rfl⟩

/-! ## Lists -/

theorem reads_readItems {vs : List Value} {xs : List α} {isFirst : Bool} {t : List UInt8}
    (h : List.Forall₂ (Decodes decoder) vs xs) (ht : Items ValueText ']' isFirst vs t) :
    Reads (readItems decoder isFirst (t ++ rest)) xs rest := by
  induction h generalizing isFirst t with
  | nil =>
    obtain ⟨shorter, hnext⟩ := nextItem_nil ht rfl rest
    rw [readItems]
    exact reads_bind_of_ok hnext (reads_pure rfl rfl)
  | cons hx _ ih =>
    obtain ⟨item, others, notLonger, hitem, hothers, hnext⟩ :=
      nextItem_cons ht (by decide) (fun _ => startsApart_bracket) rest
    rw [readItems]
    refine reads_bind_of_ok hnext ?_
    exact (hx blanks_nil hitem).bind fun _ => (ih hothers).bind fun _ => reads_pure rfl rfl

theorem decodes_list {vs : List Value} {xs : List α} (h : List.Forall₂ (Decodes decoder) vs xs) :
    Decodes (list decoder) (.array vs) xs := by
  intro blanks t rest hblanks htext
  cases htext with
  | array ht =>
    refine reads_behindBlanks (skipBlanks_append_cons hblanks rfl) ?_
    split
    · next found h' =>
      obtain rfl := eq_of_dropSymbol?_cons h'
      exact (reads_readItems h ht).map fun _ => ⟨rfl, rfl⟩
    · next h' => simp at h'

/-! ## Choices -/

variable {variants : List (String × α)} {name : String} {x : α}

theorem variant_eq_ok (h : variants.lookup name = some x) : variant variants name = .ok x := by
  rw [variant, h]

theorem decodes_choice_text (h : variants.lookup name = some x) :
    Decodes (choice variants) (.text name) x := by
  intro blanks t rest hblanks htext
  cases htext with
  | text ht => ?_
  obtain ⟨body, hbody, htext⟩ := exists_body_of_quotedText ht
  rw [htext]
  refine reads_behindBlanks (skipBlanks_append_cons hblanks rfl) ?_
  split
  · next h' => simp [dropSymbol?_cons_of_ne (show byte '"' ≠ byte '\x7b' by decide)] at h'
  split
  · next found h' =>
    obtain rfl := eq_of_dropSymbol?_cons h'
    refine (reads_readText hbody).bind fun _ => ?_
    exact reads_bind_of_ok (variant_eq_ok h) (reads_pure rfl rfl)
  · next h' => simp at h'

/-- A name is also understood as the only key of an object, with `null` for its value. -/
theorem decodes_choice_object (h : variants.lookup name = some x) :
    Decodes (choice variants) (.object [(name, .null)]) x := by
  intro blanks t rest hblanks htext
  cases htext with
  | object ht => ?_
  cases ht with
  | @first _ _ inside _ _ hinside hentry hend => ?_
  cases hentry with
  | @entry _ _ key before behind null hkey hbefore hbehind hnull => ?_
  cases hend with
  | @closed _ last hlast => ?_
  have htext : ascii ['\x7b'] ++ (inside ++ (key ++ before ++ ascii [':'] ++ behind ++ null) ++
      (last ++ ascii ['\x7d'])) ++ rest = byte '\x7b' :: (inside ++ (key ++ (before ++
        byte ':' :: (behind ++ (null ++ (last ++ byte '\x7d' :: rest)))))) := by
    simp
  rw [htext]
  refine reads_behindBlanks (skipBlanks_append_cons hblanks rfl) ?_
  split
  · next found h' =>
    obtain rfl := eq_of_dropSymbol?_cons h'
    refine (reads_key hinside hkey).bind fun _ => ?_
    refine reads_bind_of_ok (variant_eq_ok h) ?_
    refine (reads_spacedSymbol hbefore rfl).bind fun _ => ?_
    refine (decodes_unit hbehind hnull).bind fun _ => ?_
    exact (reads_spacedSymbol hlast rfl).bind fun _ => reads_pure rfl rfl
  · next h' => simp at h'

/-! ## Whole texts -/

theorem decode_eq_ok {v : Value} {bytes : List UInt8} (h : Decodes decoder v x)
    (hbytes : Document v bytes) : decode decoder bytes = .ok x := by
  cases hbytes with
  | value hbefore hvalue hbehind => ?_
  obtain ⟨shorter, hread⟩ := h hbefore hvalue
  rw [List.append_assoc, decode, hread]
  exact if_pos (by rw [skipBlanks_eq_nil hbehind]; rfl)

end ValueBuilder.Json
