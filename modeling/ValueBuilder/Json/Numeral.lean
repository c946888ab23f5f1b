import ValueBuilder.Json.Symbols

/-!
# Numbers

A numeral has a sign, whole digits without leading zeros, and perhaps a fraction and an exponent.
It is an integer when it has neither and fits in 64 bits.  Otherwise it is a double-precision
number, for which only as many leading digits count as fit in 64 bits.
-/

namespace ValueBuilder.Json

/-- A numeral, digit by digit. -/
structure Numeral where
  isNegative : Bool
  whole : List Nat
  fraction : List Nat
  /-- The sign and the digits of the exponent. -/
  exponent : Option (Bool × List Nat)
  deriving Repr, DecidableEq

/-! ## Reading -/

/-- Whether the byte is a decimal digit. -/
def isDigit (b : UInt8) : Bool :=
  byte '0' ≤ b && b ≤ byte '9'

/-- The value of a decimal digit. -/
def digitValue (b : UInt8) : Nat :=
  b.toNat - 48

/-- What a reader answers that may leave its whole input. -/
abbrev Remainder (α : Type) (bytes : List UInt8) :=
  Reading UInt8 α (bytes.length + 1)

/-- Reads a run of digits, which must not be empty. -/
def readDigits : Decoder (List Nat)
  | [] => .error .truncated
  | b :: rest =>
    if isDigit b then
      .ok ⟨digitValue b :: (rest.takeWhile isDigit).map digitValue, rest.dropWhile isDigit,
        Nat.lt_succ_of_le (length_dropWhile_le isDigit rest)⟩
    else .error .malformed

/-- Reads the whole digits.  A zero that comes first must be the only one. -/
def readWhole : Decoder (List Nat) := fun bytes => do
  let digits ← readDigits bytes
  if digits.value.head? = some 0 && digits.value.length != 1 then throw .malformed
  return digits

/-- Reads the digits behind a point, if there is one. -/
def readFraction (bytes : List UInt8) : Except Fault (Remainder (List Nat) bytes) :=
  match h : dropSymbol? '.' bytes with
  | none => .ok (.nothing [] bytes)
  | some rest => (readDigits rest).map fun digits => (behindSymbol h digits).loosen

/-- Reads a symbol, if it is there, and tells whether it is. -/
def readOptional (c : Char) (bytes : List UInt8) : Remainder Bool bytes :=
  match h : dropSymbol? c bytes with
  | some rest => .loosen ⟨true, rest, length_lt_of_dropSymbol? h⟩
  | none => .nothing false bytes

/-- Reads a sign, if there is one, and tells whether it is a minus. -/
def readSign (bytes : List UInt8) : Remainder Bool bytes :=
  let minus := readOptional '-' bytes
  if minus.value then minus else (readOptional '+' bytes).map fun _ => false

/-- The text behind the mark of an exponent. -/
def dropExponentMark? (bytes : List UInt8) : Option (List UInt8) :=
  (dropSymbol? 'e' bytes).or (dropSymbol? 'E' bytes)

theorem length_lt_of_dropExponentMark? {bytes rest : List UInt8}
    (h : dropExponentMark? bytes = some rest) : rest.length < bytes.length := by
  rcases Option.or_eq_some_iff.1 h with h | ⟨-, h⟩ <;> exact length_lt_of_dropSymbol? h

/-- Reads an exponent, if there is one. -/
def readExponent (bytes : List UInt8) :
    Except Fault (Remainder (Option (Bool × List Nat)) bytes) :=
  match h : dropExponentMark? bytes with
  | none => .ok (.nothing none bytes)
  | some marked => do
    let sign := readSign marked
    let digits ← readDigits sign.rest
    let exponent := sign.after (digits.map fun digits => some (sign.value, digits)).loosen
    return (exponent.weaken (length_lt_of_dropExponentMark? h)).loosen

/-- Reads a numeral. -/
def readNumeral : Decoder Numeral := fun bytes => do
  let minus := readOptional '-' bytes
  let whole ← readWhole minus.rest
  let fraction ← readFraction whole.rest
  let exponent ← readExponent fraction.rest
  let numeral : Numeral := ⟨minus.value, whole.value, fraction.value, exponent.value⟩
  return minus.afterAny (whole.after (fraction.after (exponent.map fun _ => numeral)))

/-! ## Values -/

namespace Numeral

/-- The number of decimal digits. -/
def ofDigits (digits : List Nat) : Nat :=
  digits.foldl (fun n digit => 10 * n + digit) 0

/-- One more than the largest number of 64 bits. -/
def wordBound : Nat := 0x10000000000000000

/-- The largest absolute value of a negative integer of 64 bits. -/
def negativeBound : Nat := 0x8000000000000000

/-- Appends digits to a number as long as it fits in 64 bits; the digits that are left over. -/
def absorb (n : Nat) : List Nat → Nat × List Nat
  | [] => (n, [])
  | digit :: digits =>
    if 10 * n + digit < wordBound then absorb (10 * n + digit) digits else (n, digit :: digits)

/-- The value of the exponent. -/
def power (n : Numeral) : Int :=
  match n.exponent with
  | none => 0
  | some (isNegative, digits) => if isNegative then -(ofDigits digits : Int) else ofDigits digits

/-- Whether the numeral is written as an integer. -/
def isWhole (n : Numeral) : Bool :=
  n.fraction.isEmpty && n.exponent.isNone

/-- The integer of a sign and a number, if it fits in 64 bits with its sign.  There is no negative
zero. -/
def integer? (isNegative : Bool) (n : Nat) : Option Int :=
  if !isNegative then some n
  else if 0 < n ∧ n ≤ negativeBound then some (-(n : Int))
  else none

/-- The double-precision number; none when it would be infinite. -/
def real? (n : Numeral) : Option Number :=
  let (leading, beyond) := absorb 0 n.whole
  let (significand, dropped) := absorb leading n.fraction
  let places : Int := beyond.length - (n.fraction.length - dropped.length : Nat)
  (Double.ofDecimal? significand (places + n.power)).map (.real n.isNegative)

/-- The number; none when it is out of range. -/
def value? (n : Numeral) : Option Number :=
  let (whole, beyond) := absorb 0 n.whole
  if n.isWhole && beyond.isEmpty then
    match integer? n.isNegative whole with
    | some i => some (.integer i)
    | none => n.real?
  else n.real?

end Numeral

/-- Reads a number. -/
def readNumber : Decoder Number := fun bytes => do
  let numeral ← readNumeral bytes
  match numeral.value.value? with
  | some n => return numeral.map fun _ => n
  | none => throw .malformed

end ValueBuilder.Json
