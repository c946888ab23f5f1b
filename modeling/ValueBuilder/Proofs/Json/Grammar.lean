import ValueBuilder.Json.Symbols

/-!
# The grammar of JSON texts

Which bytes spell which value.  A relation of this module takes a whole phrase without what stands
around it, and says nothing about how a reader finds where the phrase ends.

    Document ::= blanks Value blanks
    Value    ::= 'null' | 'true' | 'false' | Text | '[' Items | '{' Entries
    Items    ::= blanks ']' | blanks Value (blanks ',' blanks Value)* blanks ']'
    Entries  ::= blanks '}' | blanks Entry (blanks ',' blanks Entry)* blanks '}'
    Entry    ::= Text blanks ':' blanks Value
    Text     ::= '"' Char* '"'

A character stands for itself or is escaped, and most characters can be written in several ways.
-/

namespace ValueBuilder.Json

/-- A value as JSON knows it, with the entries of objects in the order in which they are written.
Numbers are left out, since declarations hold none. -/
inductive Value
  | null
  | boolean (b : Bool)
  | text (s : String)
  | array (items : List Value)
  | object (entries : List (String × Value))

namespace Grammar

/-! ## Symbols -/

/-- The bytes of ASCII characters. -/
def ascii (cs : List Char) : List UInt8 :=
  cs.map byte

@[simp]
theorem ascii_nil : ascii [] = [] :=
  rfl

@[simp]
theorem ascii_cons {c : Char} {cs : List Char} : ascii (c :: cs) = byte c :: ascii cs :=
  rfl

/-- Spaces, line feeds, tabs and carriage returns. -/
def Blanks (bytes : List UInt8) : Prop :=
  ∀ b ∈ bytes, b ∈ ascii [' ', '\n', '\t', '\r']

theorem blanks_nil : Blanks [] := by
  simp [Blanks]

/-! ## Texts -/

/-- The hexadecimal digits of a number below 16; there are two of those from ten on. -/
inductive HexDigit : Nat → UInt8 → Prop
  | decimal {n : Nat} (h : n < 10) : HexDigit n (UInt8.ofNat ('0'.toNat + n))
  | lower {n : Nat} (h : n < 6) : HexDigit (10 + n) (UInt8.ofNat ('a'.toNat + n))
  | upper {n : Nat} (h : n < 6) : HexDigit (10 + n) (UInt8.ofNat ('A'.toNat + n))

/-- Four hexadecimal digits of a number below 65536. -/
inductive UnitText : Nat → List UInt8 → Prop
  | digits {i j k l : Nat} {a b c d : UInt8} (ha : HexDigit i a) (hb : HexDigit j b)
      (hc : HexDigit k c) (hd : HexDigit l d) :
      UnitText (((i * 16 + j) * 16 + k) * 16 + l) [a, b, c, d]

/-- The ways to write a character in a text. -/
inductive CharText : Char → List UInt8 → Prop
  | itself {c : Char} (hquote : c ≠ '"') (hbackslash : c ≠ '\\') (hcontrol : 0x20 ≤ c.toNat) :
      CharText c (String.utf8EncodeChar c)
  | quote : CharText '"' (ascii ['\\', '"'])
  | backslash : CharText '\\' (ascii ['\\', '\\'])
  | slash : CharText '/' (ascii ['\\', '/'])
  | backspace : CharText '\x08' (ascii ['\\', 'b'])
  | formFeed : CharText '\x0C' (ascii ['\\', 'f'])
  | lineFeed : CharText '\n' (ascii ['\\', 'n'])
  | carriageReturn : CharText '\r' (ascii ['\\', 'r'])
  | tab : CharText '\t' (ascii ['\\', 't'])
  | code {c : Char} {digits : List UInt8} (hdigits : UnitText c.toNat digits) :
      CharText c (ascii ['\\', 'u'] ++ digits)
  /-- A pair of surrogates, each of which carries ten bits of the code point. -/
  | pair {c : Char} {upper lower : Nat} {opening closing : List UInt8}
      (hupper : upper < 0x400) (hlower : lower < 0x400)
      (hc : c.toNat = 0x10000 + upper * 0x400 + lower)
      (hopening : UnitText (0xD800 + upper) opening)
      (hclosing : UnitText (0xDC00 + lower) closing) :
      CharText c (ascii ['\\', 'u'] ++ opening ++ (ascii ['\\', 'u'] ++ closing))

/-- The characters of a text, one after the other. -/
inductive BodyText : List Char → List UInt8 → Prop
  | nil : BodyText [] []
  | cons {c : Char} {cs : List Char} {first others : List UInt8} (hfirst : CharText c first)
      (hothers : BodyText cs others) : BodyText (c :: cs) (first ++ others)

/-- A text between quotes. -/
inductive QuotedText : String → List UInt8 → Prop
  | quoted {s : String} {body : List UInt8} (hbody : BodyText s.toList body) :
      QuotedText s (ascii ['"'] ++ body ++ ascii ['"'])

/-! ## Values -/

/-- What stands behind an opening bracket, or behind an item, up to the closing bracket.  What the
items are is left open. -/
inductive Items {α : Type} (Writes : α → List UInt8 → Prop) (closing : Char) :
    (isFirst : Bool) → List α → List UInt8 → Prop
  | closed {isFirst : Bool} {blanks : List UInt8} (hblanks : Blanks blanks) :
      Items Writes closing isFirst [] (blanks ++ ascii [closing])
  | first {x : α} {xs : List α} {blanks item others : List UInt8} (hblanks : Blanks blanks)
      (hitem : Writes x item) (hothers : Items Writes closing false xs others) :
      Items Writes closing true (x :: xs) (blanks ++ item ++ others)
  | next {x : α} {xs : List α} {before behind item others : List UInt8} (hbefore : Blanks before)
      (hbehind : Blanks behind) (hitem : Writes x item)
      (hothers : Items Writes closing false xs others) :
      Items Writes closing false (x :: xs) (before ++ ascii [','] ++ behind ++ item ++ others)

/-- An entry of an object. -/
inductive EntryText (Writes : Value → List UInt8 → Prop) : String × Value → List UInt8 → Prop
  | entry {key : String} {v : Value} {name before behind value : List UInt8}
      (hname : QuotedText key name) (hbefore : Blanks before) (hbehind : Blanks behind)
      (hvalue : Writes v value) :
      EntryText Writes (key, v) (name ++ before ++ ascii [':'] ++ behind ++ value)

/-- The ways to write a value, without blanks around it. -/
inductive ValueText : Value → List UInt8 → Prop
  | null : ValueText .null (ascii ['n', 'u', 'l', 'l'])
  | true : ValueText (.boolean true) (ascii ['t', 'r', 'u', 'e'])
  | false : ValueText (.boolean false) (ascii ['f', 'a', 'l', 's', 'e'])
  | text {s : String} {t : List UInt8} (ht : QuotedText s t) : ValueText (.text s) t
  | array {items : List Value} {t : List UInt8} (ht : Items ValueText ']' true items t) :
      ValueText (.array items) (ascii ['['] ++ t)
  | object {entries : List (String × Value)} {t : List UInt8}
      (ht : Items (EntryText ValueText) '\x7d' true entries t) :
      ValueText (.object entries) (ascii ['\x7b'] ++ t)

/-- A whole text: a value, perhaps between blanks. -/
inductive Document : Value → List UInt8 → Prop
  | value {v : Value} {before value behind : List UInt8} (hbefore : Blanks before)
      (hvalue : ValueText v value) (hbehind : Blanks behind) :
      Document v (before ++ value ++ behind)

/-- Harmless characters stand for themselves. -/
theorem quotedText_itself {s : String}
    (h : s.toList.all (fun c => c ≠ '"' ∧ c ≠ '\\' ∧ 0x20 ≤ c.toNat) = true) :
    QuotedText s (ascii ['"'] ++ s.toList.flatMap String.utf8EncodeChar ++ ascii ['"']) := by
  refine .quoted ?_
  generalize s.toList = cs at h
  induction cs with
  | nil => exact .nil
  | cons c cs ih =>
    obtain ⟨hc, hcs⟩ := Bool.and_eq_true_iff.1 h
    obtain ⟨hquote, hbackslash, hcontrol⟩ := of_decide_eq_true hc
    exact .cons (.itself hquote hbackslash hcontrol) (ih hcs)

/-! ## Every value has a text -/

theorem exists_hexDigit {n : Nat} (h : n < 16) : ∃ b, HexDigit n b := by
  by_cases hn : n < 10
  · exact ⟨_, .decimal hn⟩
  · obtain ⟨m, rfl⟩ := Nat.exists_eq_add_of_le (Nat.not_lt.1 hn)
    exact ⟨_, .lower (by omega)⟩

theorem exists_unitText {n : Nat} (h : n < 0x10000) : ∃ digits, UnitText n digits := by
  obtain ⟨a, ha⟩ := exists_hexDigit (show n / 4096 < 16 by omega)
  obtain ⟨b, hb⟩ := exists_hexDigit (show n / 256 % 16 < 16 by omega)
  obtain ⟨c, hc⟩ := exists_hexDigit (show n / 16 % 16 < 16 by omega)
  obtain ⟨d, hd⟩ := exists_hexDigit (show n % 16 < 16 by omega)
  have hn : ((n / 4096 * 16 + n / 256 % 16) * 16 + n / 16 % 16) * 16 + n % 16 = n := by omega
  exact ⟨[a, b, c, d], hn ▸ .digits ha hb hc hd⟩

theorem exists_charText (c : Char) : ∃ text, CharText c text := by
  by_cases hquote : c = '"'
  · subst hquote
    exact ⟨_, .quote⟩
  by_cases hbackslash : c = '\\'
  · subst hbackslash
    exact ⟨_, .backslash⟩
  by_cases hcontrol : 0x20 ≤ c.toNat
  · exact ⟨_, .itself hquote hbackslash hcontrol⟩
  · obtain ⟨digits, hdigits⟩ := exists_unitText (show c.toNat < 0x10000 by omega)
    exact ⟨_, .code hdigits⟩

theorem exists_quotedText (s : String) : ∃ text, QuotedText s text := by
  have hbody : ∀ cs, ∃ body, BodyText cs body := by
    intro cs
    induction cs with
    | nil => exact ⟨[], .nil⟩
    | cons c cs ih =>
      obtain ⟨first, hfirst⟩ := exists_charText c
      obtain ⟨others, hothers⟩ := ih
      exact ⟨_, .cons hfirst hothers⟩
  obtain ⟨body, hbody⟩ := hbody s.toList
  exact ⟨_, .quoted hbody⟩

theorem exists_items {α : Type} {Writes : α → List UInt8 → Prop} {xs : List α}
    (h : ∀ x ∈ xs, ∃ text, Writes x text) (closing : Char) (isFirst : Bool) :
    ∃ text, Items Writes closing isFirst xs text := by
  induction xs generalizing isFirst with
  | nil => exact ⟨_, .closed blanks_nil⟩
  | cons x xs ih =>
    obtain ⟨⟨item, hitem⟩, h⟩ := List.forall_mem_cons.1 h
    obtain ⟨others, hothers⟩ := ih h false
    cases isFirst with
    | true => exact ⟨_, .first blanks_nil hitem hothers⟩
    | false => exact ⟨_, .next blanks_nil blanks_nil hitem hothers⟩

theorem exists_valueText : (v : Value) → ∃ text, ValueText v text
  | .null => ⟨_, .null⟩
  | .boolean true => ⟨_, .true⟩
  | .boolean false => ⟨_, .false⟩
  | .text s =>
    let ⟨_, htext⟩ := exists_quotedText s
    ⟨_, .text htext⟩
  | .array items =>
    let ⟨_, htext⟩ := exists_items (fun v _ => exists_valueText v) ']' true
    ⟨_, .array htext⟩
  | .object entries => by
    have hentries : ∀ entry ∈ entries, ∃ text, EntryText ValueText entry text := by
      intro (key, v) hentry
      have hsmaller : sizeOf v < sizeOf entries := by
        have hsize := List.sizeOf_lt_of_mem hentry
        simp only [Prod.mk.sizeOf_spec] at hsize
        omega
      obtain ⟨name, hname⟩ := exists_quotedText key
      obtain ⟨value, hvalue⟩ := exists_valueText v
      exact ⟨_, .entry hname blanks_nil blanks_nil hvalue⟩
    obtain ⟨text, htext⟩ := exists_items hentries '\x7d' true
    exact ⟨_, .object htext⟩

/-! ## Members -/

/-- What an object holds for a key: an entry with a value that is accepted, or nothing where the
entry may be left out. -/
inductive Member (key : String) (Accepts : Value → Prop) (omissible : Prop) :
    List (String × Value) → Prop
  | written {v : Value} (hv : Accepts v) : Member key Accepts omissible [(key, v)]
  | omitted (h : omissible) : Member key Accepts omissible []

theorem Member.imp {key : String} {Accepts Accepts' : Value → Prop} {omissible omissible' : Prop}
    {member : List (String × Value)} (h : Member key Accepts omissible member)
    (hvalue : ∀ v, Accepts v → Accepts' v) (homitted : omissible → omissible') :
    Member key Accepts' omissible' member := by
  cases h with
  | written hv => exact .written (hvalue _ hv)
  | omitted h => exact .omitted (homitted h)

end Grammar

end ValueBuilder.Json
