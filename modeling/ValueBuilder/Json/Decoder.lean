import ValueBuilder.Json.Numeral
import ValueBuilder.Json.Text

/-!
# Decoders

A decoder reads a value of one form.  Reading goes from left to right and stops at the first fault,
whether the text is no JSON or JSON of another form.
-/

namespace ValueBuilder.Json

/-! ## Values of the wrong kind -/

/-- The fault of a value that differs from what was expected. -/
def wrongKind {bound : Nat} {α : Type} (expected : String) (found : α → Found)
    (read : Except Fault (Reading UInt8 α bound)) : Fault :=
  match read with
  | .ok reading => .mismatch (.wrongKind (found reading.value) expected)
  | .error fault => fault

/-- Reads `null`. -/
def readNull : Decoder Unit :=
  word 'n' ['u', 'l', 'l']

/-- Reads `true`. -/
def readTrue : Decoder Unit :=
  word 't' ['r', 'u', 'e']

/-- Reads `false`. -/
def readFalse : Decoder Unit :=
  word 'f' ['a', 'l', 's', 'e']

/-- The fault in front of a value of another kind than expected.  Names, numbers and texts are read
to their end, and a fault in them comes first. -/
def unexpected (expected : String) (bytes : List UInt8) : Fault :=
  match bytes with
  | [] => .truncated
  | b :: rest =>
    if b == byte 'n' then wrongKind expected (fun _ => .null) (readNull bytes)
    else if b == byte 't' then wrongKind expected (fun _ => .boolean true) (readTrue bytes)
    else if b == byte 'f' then wrongKind expected (fun _ => .boolean false) (readFalse bytes)
    else if b == byte '-' || isDigit b then wrongKind expected .number (readNumber bytes)
    else if b == byte '"' then wrongKind expected .text (readText rest)
    else if b == byte '[' then .mismatch (.wrongKind .sequence expected)
    else if b == byte '\x7b' then .mismatch (.wrongKind .record expected)
    else .malformed

/-! ## Plain values -/

/-- Whether the text goes on with the character. -/
def startsWith (c : Char) (bytes : List UInt8) : Bool :=
  (dropSymbol? c bytes).isSome

/-- Reads with a reader that does not skip blanks from behind the blanks. -/
def behindBlanks {α : Type} (read : Decoder α) : Decoder α := fun bytes =>
  (read (skipBlanks bytes)).map (.weaken (length_skipBlanks_le bytes))

/-- Reads a text. -/
def text : Decoder String :=
  behindBlanks fun bytes =>
    match h : dropSymbol? '"' bytes with
    | some rest => (readText rest).map (behindSymbol h)
    | none => .error (unexpected "a string" bytes)

/-- Reads the key of an object.  With anything but a text as a key the object is no JSON. -/
def key : Decoder String :=
  behindBlanks fun bytes =>
    match h : dropSymbol? '"' bytes with
    | some rest => (readText rest).map (behindSymbol h)
    | none => .error (stuckAt bytes)

/-- Reads `true` or `false`. -/
def boolean : Decoder Bool :=
  behindBlanks fun bytes =>
    if startsWith 't' bytes then (readTrue bytes).map (·.map fun _ => true)
    else if startsWith 'f' bytes then (readFalse bytes).map (·.map fun _ => false)
    else .error (unexpected "a boolean" bytes)

/-- Reads `null`, where nothing else may stand. -/
def unit : Decoder Unit :=
  behindBlanks fun bytes =>
    if startsWith 'n' bytes then readNull bytes else .error (unexpected "unit" bytes)

/-- Reads `null` or a value. -/
def nullable {α : Type} (decoder : Decoder α) : Decoder (Option α) :=
  behindBlanks fun bytes =>
    if startsWith 'n' bytes then (readNull bytes).map (·.map fun _ => none)
    else (decoder bytes).map (·.map some)

/-! ## Lists -/

/-- Reads the items of a list from behind its bracket or from behind an item. -/
def readItems {α : Type} (decoder : Decoder α) (isFirst : Bool) (bytes : List UInt8) :
    Except Fault (Reading UInt8 (List α) bytes.length) := do
  match ← nextItem ']' isFirst bytes with
  | .closed rest shorter => return ⟨[], rest, shorter⟩
  | .item rest notLonger =>
    let item ← decoder rest
    have := item.shorter
    let others ← readItems decoder false item.rest
    return (item.after (others.loosen.map (item.value :: ·))).weaken notLonger
termination_by bytes.length

/-- Reads a list. -/
def list {α : Type} (decoder : Decoder α) : Decoder (List α) :=
  behindBlanks fun bytes =>
    match h : dropSymbol? '[' bytes with
    | some rest => (readItems decoder true rest).map (behindSymbol h)
    | none => .error (unexpected "a sequence" bytes)

/-! ## Choices -/

/-- The value of a name in a list of variants. -/
def variant {α : Type} (variants : List (String × α)) (name : String) : Except Fault α :=
  match variants.lookup name with
  | some value => .ok value
  | none => .error (.mismatch (.unknownVariant name (variants.map (·.1))))

/-- Reads one of several names, either as a text or as the only key of a record whose value is
`null`. -/
def choice {α : Type} (variants : List (String × α)) : Decoder α :=
  behindBlanks fun bytes =>
    match h : dropSymbol? '\x7b' bytes with
    | some rest => do
      let name ← key rest
      let value ← variant variants name.value
      let colon ← spacedSymbol ':' name.rest
      let null ← unit colon.rest
      let closing ← spacedSymbol '\x7d' null.rest
      let all := name.after (colon.after (null.after closing.loosen).loosen).loosen
      return behindSymbol h (all.map fun _ => value)
    | none =>
      match h : dropSymbol? '"' bytes with
      | some rest => do
        let name ← readText rest
        let value ← variant variants name.value
        return behindSymbol h (name.map fun _ => value)
      | none => .error (stuckAt bytes)

/-! ## Whole texts -/

/-- Reads a text that holds one value and blanks around it. -/
def decode {α : Type} (decoder : Decoder α) (bytes : List UInt8) : Except Fault α := do
  let reading ← decoder bytes
  if (skipBlanks reading.rest).isEmpty then return reading.value else throw .malformed

end ValueBuilder.Json
