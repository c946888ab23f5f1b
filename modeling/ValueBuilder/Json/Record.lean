import ValueBuilder.Json.Decoder

/-!
# Records

A record has fixed fields.  It is written as an object with the keys in any order, or as an array
with the values in the order of the fields.  A field with a fallback may be left out, in an array
only together with all that follow.
-/

namespace ValueBuilder.Json

/-- A field of a record: its key, how its value is read, and the value of a record without it. -/
structure Field (α : Type) where
  key : String
  decoder : Decoder α
  fallback : Option α := none

/-- The fields of a record.  The index is the type of their values together. -/
inductive Fields : Type → Type 1
  | done : Fields Unit
  | and {α β : Type} (field : Field α) (others : Fields β) : Fields (α × β)

namespace Fields

/-- The keys, in order. -/
def keys {τ : Type} : Fields τ → List String
  | done => []
  | and field others => field.key :: others.keys

/-! ## Objects -/

/-- The values of the fields that have been read so far. -/
@[reducible] def Slots : {τ : Type} → Fields τ → Type
  | _, done => Unit
  | _, and (α := α) _ others => Option α × Slots others

/-- No values. -/
def noSlots : {τ : Type} → (fields : Fields τ) → Slots fields
  | _, done => ()
  | _, and _ others => (none, others.noSlots)

/-- Reads the value of a key, from behind the key, into its slot.  The key is judged first: it must
be a field's, and its slot must be empty. -/
def readEntry (known : List String) (key : String) : {τ : Type} → (fields : Fields τ) →
    Slots fields → Decoder (Slots fields)
  | _, done, _ => fun _ => .error (.mismatch (.unknownField key known))
  | _, and field others, slots => fun bytes =>
    if key == field.key then
      if slots.1.isSome then .error (.mismatch (.repeatedField key))
      else do
        let colon ← spacedSymbol ':' bytes
        let value ← field.decoder colon.rest
        return colon.after (value.loosen.map (some ·, slots.2))
    else do
      let reading ← readEntry known key others slots.2 bytes
      return reading.map (slots.1, ·)

/-- Reads the entries of an object from behind its brace or from behind an entry. -/
def readEntries {τ : Type} (fields : Fields τ) (slots : Slots fields) (isFirst : Bool)
    (bytes : List UInt8) : Except Fault (Reading UInt8 (Slots fields) bytes.length) := do
  match ← nextItem '\x7d' isFirst bytes with
  | .closed rest shorter => return ⟨slots, rest, shorter⟩
  | .item rest notLonger =>
    let key ← key rest
    have := key.shorter
    let entry ← fields.readEntry fields.keys key.value slots key.rest
    have := entry.shorter
    let all ← readEntries fields entry.value false entry.rest
    return (key.after (entry.after all.loosen).loosen).weaken notLonger
termination_by bytes.length

/-- The values of all fields; the first field that has none and must have one is missing. -/
def complete : {τ : Type} → (fields : Fields τ) → Slots fields → Except Fault τ
  | _, done, _ => .ok ()
  | _, and field others, slots =>
    match slots.1.or field.fallback with
    | none => .error (.mismatch (.missingField field.key))
    | some value => do return (value, ← others.complete slots.2)

/-! ## Arrays -/

/-- The values of a record whose array ended before these fields, of which the first has the given
position; or the position of the first field that must not be left out. -/
def fallbacks (position : Nat) : {τ : Type} → Fields τ → Except Nat τ
  | _, done => .ok ()
  | _, and field others =>
    match field.fallback with
    | none => .error position
    | some value => do return (value, ← others.fallbacks (position + 1))

/-- Reads the elements of an array from behind its bracket or from behind an element.  Behind the
element of the last field the array must end. -/
def readElements (record : String) (count position : Nat) : {τ : Type} → Fields τ → Decoder τ
  | _, done => spacedSymbol ']'
  | _, and field others => fun bytes => do
    match ← nextItem ']' (position == 0) bytes with
    | .closed rest shorter =>
      match (and field others).fallbacks position with
      | .ok values => return ⟨values, rest, shorter⟩
      | .error missing => throw (.mismatch (.wrongLength missing record count))
    | .item rest notLonger =>
      let element ← field.decoder rest
      let more ← readElements record count (position + 1) others element.rest
      return (element.after (more.loosen.map (element.value, ·))).weaken notLonger

end Fields

/-- Reads a record of a given name and makes a value of its fields. -/
def record {τ α : Type} (name : String) (fields : Fields τ) (make : τ → α) : Decoder α :=
  behindBlanks fun bytes =>
    match h : dropSymbol? '\x7b' bytes with
    | some rest => do
      let slots ← fields.readEntries fields.noSlots true rest
      let values ← fields.complete slots.value
      return behindSymbol h (slots.map fun _ => make values)
    | none =>
      match h : dropSymbol? '[' bytes with
      | some rest => do
        let values ← fields.readElements name fields.keys.length 0 rest
        return behindSymbol h (values.map make)
      | none => .error (unexpected ("struct " ++ name) bytes)

end ValueBuilder.Json
