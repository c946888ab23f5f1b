import ValueBuilder.Json.Fault
import ValueBuilder.Reading

/-!
# Bytes and symbols

A JSON text is a list of bytes.  Between its symbols stand blanks, of which JSON knows four.  The
faults of a missing symbol are the same everywhere: the text ends too early, or it is no JSON.
-/

namespace ValueBuilder.Json

/-- How a value is read off the front of a text. -/
abbrev Decoder (α : Type) :=
  (bytes : List UInt8) → Except Fault (Reading UInt8 α bytes.length)

/-- The byte of an ASCII character. -/
def byte (c : Char) : UInt8 :=
  c.toUInt8

/-- Spaces, tabs and line breaks. -/
def isBlank (b : UInt8) : Bool :=
  b == byte ' ' || b == byte '\n' || b == byte '\t' || b == byte '\r'

/-- The text behind leading blanks. -/
def skipBlanks (bytes : List UInt8) : List UInt8 :=
  bytes.dropWhile isBlank

theorem length_skipBlanks_le (bytes : List UInt8) : (skipBlanks bytes).length ≤ bytes.length :=
  length_dropWhile_le _ bytes

/-- The text behind a given first character. -/
def dropSymbol? (symbol : Char) : List UInt8 → Option (List UInt8)
  | [] => none
  | b :: rest => if b == byte symbol then some rest else none

theorem length_lt_of_dropSymbol? {symbol : Char} {bytes rest : List UInt8}
    (h : dropSymbol? symbol bytes = some rest) : rest.length < bytes.length := by
  cases bytes with
  | nil => simp [dropSymbol?] at h
  | cons b bytes =>
    simp only [dropSymbol?] at h
    split at h
    · simp_all
    · simp at h

theorem length_lt_of_dropSymbol?_skipBlanks {symbol : Char} {bytes rest : List UInt8}
    (h : dropSymbol? symbol (skipBlanks bytes) = some rest) : rest.length < bytes.length :=
  Nat.lt_of_lt_of_le (length_lt_of_dropSymbol? h) (length_skipBlanks_le bytes)

/-- A reading of what stands behind a symbol. -/
def behindSymbol {α : Type} {symbol : Char} {bytes rest : List UInt8}
    (h : dropSymbol? symbol bytes = some rest) (reading : Reading UInt8 α rest.length) :
    Reading UInt8 α bytes.length :=
  reading.weaken (Nat.le_of_lt (length_lt_of_dropSymbol? h))

/-- The fault in front of a text that cannot go on like this. -/
def stuckAt : List UInt8 → Fault
  | [] => .truncated
  | _ :: _ => .malformed

/-- Reads a symbol that must come next. -/
def symbol (c : Char) : Decoder Unit := fun bytes =>
  match h : dropSymbol? c bytes with
  | some rest => .ok ⟨(), rest, length_lt_of_dropSymbol? h⟩
  | none => .error (stuckAt bytes)

/-- Reads a symbol that must come next, perhaps behind blanks. -/
def spacedSymbol (c : Char) : Decoder Unit := fun bytes =>
  match h : dropSymbol? c (skipBlanks bytes) with
  | some rest => .ok ⟨(), rest, length_lt_of_dropSymbol?_skipBlanks h⟩
  | none => .error (stuckAt (skipBlanks bytes))

/-- Reads the characters of a word one by one, the first of which is given apart. -/
def word (first : Char) : List Char → Decoder Unit
  | [] => symbol first
  | second :: others => fun bytes => do
    let opened ← symbol first bytes
    let rest ← word second others opened.rest
    return opened.after rest.loosen

/-! ## Brackets -/

/-- What stands next in a bracketed list: its end, or an item. -/
inductive Next (bytes : List UInt8)
  | closed (rest : List UInt8) (shorter : rest.length < bytes.length)
  | item (rest : List UInt8) (notLonger : rest.length ≤ bytes.length)

/-- Looks for the next item of a bracketed list or for its end.  A comma stands before every item
but the first, and the list does not end behind a comma. -/
def nextItem (closing : Char) (isFirst : Bool) (bytes : List UInt8) : Except Fault (Next bytes) :=
  match h : dropSymbol? closing (skipBlanks bytes) with
  | some rest => .ok (.closed rest (length_lt_of_dropSymbol?_skipBlanks h))
  | none =>
    if isFirst then
      if (skipBlanks bytes).isEmpty then .error .truncated
      else .ok (.item (skipBlanks bytes) (length_skipBlanks_le bytes))
    else
      match h : dropSymbol? ',' (skipBlanks bytes) with
      | none => .error (stuckAt (skipBlanks bytes))
      | some rest =>
        if (skipBlanks rest).isEmpty then .error .truncated
        else if (dropSymbol? closing (skipBlanks rest)).isSome then .error .malformed
        else
          .ok (.item (skipBlanks rest) (Nat.le_trans (length_skipBlanks_le rest)
            (Nat.le_of_lt (length_lt_of_dropSymbol?_skipBlanks h))))

end ValueBuilder.Json
