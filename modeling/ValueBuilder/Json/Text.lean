import ValueBuilder.Json.Symbols

/-!
# Texts

A text stands between quotes.  Characters may be written by themselves or as escapes; one beyond
the first 65536 code points is escaped as a pair of surrogates.  Control characters must be escaped,
and the bytes must be UTF-8, which is judged at the closing quote.
-/

namespace ValueBuilder.Json

/-! ## Escapes -/

/-- The characters with an escape of one letter. -/
def letterEscapes : List (Char × Char) :=
  [('"', '"'), ('\\', '\\'), ('/', '/'), ('b', '\x08'), ('f', '\x0C'), ('n', '\n'), ('r', '\r'),
    ('t', '\t')]

/-- The character of a one-letter escape. -/
def letterEscape? (letter : UInt8) : Option Char :=
  (letterEscapes.find? (byte ·.1 == letter)).map (·.2)

/-- The value of a hexadecimal digit. -/
def hexValue? (b : UInt8) : Option Nat :=
  if byte '0' ≤ b ∧ b ≤ byte '9' then some (b.toNat - 48)
  else if byte 'a' ≤ b ∧ b ≤ byte 'f' then some (b.toNat - 87)
  else if byte 'A' ≤ b ∧ b ≤ byte 'F' then some (b.toNat - 55)
  else none

/-- The value of hexadecimal digits. -/
def hexNumber? (digits : List UInt8) : Option Nat :=
  digits.foldlM (fun n digit => (hexValue? digit).map (16 * n + ·)) 0

/-- Reads four hexadecimal digits.  A text with fewer bytes left ends too early. -/
def readHex : Decoder Nat
  | a :: b :: c :: d :: rest =>
    match hexNumber? [a, b, c, d] with
    | some n => .ok ⟨n, rest, by simp only [List.length_cons]; omega⟩
    | none => .error .malformed
  | _ => .error .truncated

/-- Whether the unit opens a surrogate pair. -/
def opensPair (unit : Nat) : Bool :=
  0xD800 ≤ unit && unit ≤ 0xDBFF

/-- Whether the unit closes a surrogate pair. -/
def closesPair (unit : Nat) : Bool :=
  0xDC00 ≤ unit && unit ≤ 0xDFFF

/-- The code point of a surrogate pair. -/
def pairCode (opening closing : Nat) : Nat :=
  0x10000 + (opening - 0xD800) * 0x400 + (closing - 0xDC00)

/-- Reads the units of a character from behind `\u`. -/
def readUnits : Decoder Char := fun bytes => do
  let first ← readHex bytes
  if closesPair first.value then throw .malformed
  if opensPair first.value then
    let slash ← symbol '\\' first.rest
    let mark ← symbol 'u' slash.rest
    let second ← readHex mark.rest
    if closesPair second.value then
      let c := Char.ofNat (pairCode first.value second.value)
      return first.after (slash.after (mark.after (second.map fun _ => c).loosen).loosen).loosen
    else throw .malformed
  else return first.map Char.ofNat

/-- Reads an escape from behind its backslash. -/
def readEscape : Decoder Char
  | [] => .error .truncated
  | letter :: rest =>
    if letter == byte 'u' then
      (readUnits rest).map (·.behind letter)
    else
      match letterEscape? letter with
      | some c => .ok (.first c letter rest)
      | none => .error .malformed

/-! ## Texts -/

/-- Whether the byte is a control character. -/
def isControl (b : UInt8) : Bool :=
  b.toNat < 0x20

/-- Reads the bytes of a text up to its closing quote, with escapes replaced. -/
def readBody : Decoder (List UInt8)
  | [] => .error .truncated
  | b :: rest => do
    if b == byte '"' then return .first [] b rest
    else if b == byte '\\' then
      let escape ← readEscape rest
      have := escape.shorter
      let more ← readBody escape.rest
      return (escape.after (more.map (String.utf8EncodeChar escape.value ++ ·)).loosen).behind b
    else if isControl b then throw .malformed
    else
      let more ← readBody rest
      return (more.map (b :: ·)).behind b
termination_by bytes => bytes.length

/-- The text of UTF-8 bytes. -/
def ofUtf8? (bytes : List UInt8) : Option String :=
  String.fromUTF8? bytes.toByteArray

theorem ofUtf8?_utf8EncodeChar (s : String) :
    ofUtf8? (s.toList.flatMap String.utf8EncodeChar) = some s := by
  have h : (s.toList.flatMap String.utf8EncodeChar).toByteArray = s.toByteArray :=
    String.utf8Encode_toList
  rw [ofUtf8?, h, String.fromUTF8?, dif_pos s.isValidUTF8]
  rfl

/-- Reads a text from behind its opening quote. -/
def readText : Decoder String := fun bytes => do
  let body ← readBody bytes
  match ofUtf8? body.value with
  | some s => return body.map fun _ => s
  | none => throw .malformed

end ValueBuilder.Json
