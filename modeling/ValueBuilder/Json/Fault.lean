import ValueBuilder.Number.Shortest
import ValueBuilder.Text.Quoted

/-!
# Faults of JSON texts

A text may end too early, it may not be JSON, or it may be JSON of another form than expected.  A
value of the wrong kind is named in the error text, numbers and texts in full.
-/

namespace ValueBuilder.Json

/-! ## Numbers -/

/-- A number as it was read: an integer of 64 bits, or a double-precision number. -/
inductive Number
  | integer (n : Int)
  | real (negative : Bool) (magnitude : Double)
  deriving Repr, DecidableEq

/-- From which decimal place on numbers are written with an exponent. -/
def positionalLimit : Int := 16

/-- From which place behind the point on numbers are written with an exponent. -/
def smallLimit : Int := -5

/-- Zeros. -/
def zeros (n : Nat) : List Char :=
  List.replicate n '0'

/-- Digits with a point behind the first one, unless it is the only one. -/
def pointed : List Char → List Char
  | first :: second :: others => first :: '.' :: second :: others
  | digits => digits

/-- The power of ten behind the digits of a number, which always has a sign. -/
def powerText (exponent : Int) : List Char :=
  ['e'] ++ (if 0 ≤ exponent then ['+'] else ['-']) ++ Nat.toDigits 10 exponent.natAbs

/-- A positive decimal: with a point when it stands near the digits, else with a power of ten. -/
def Decimal.notation (d : Decimal) : List Char :=
  let digits := Nat.toDigits 10 d.digits
  let places : Int := digits.length + d.exponent
  if 0 ≤ d.exponent ∧ places ≤ positionalLimit then
    digits ++ zeros d.exponent.toNat ++ ['.', '0']
  else if 0 < places ∧ places ≤ positionalLimit then
    digits.take places.toNat ++ ['.'] ++ digits.drop places.toNat
  else if smallLimit < places ∧ places ≤ 0 then
    ['0', '.'] ++ zeros (-places).toNat ++ digits
  else pointed digits ++ powerText (places - 1)

/-- A double-precision number without its sign. -/
def magnitudeText (d : Double) : List Char :=
  if d.isZero then ['0', '.', '0'] else Decimal.notation d.shortest

/-- The text of a double-precision number. -/
def realText (negative : Bool) (d : Double) : String :=
  String.ofList ((if negative then ['-'] else []) ++ magnitudeText d)

/-! ## Values of the wrong kind -/

/-- A value as an error text names it. -/
inductive Found
  | null
  | boolean (b : Bool)
  | number (n : Number)
  | text (s : String)
  | sequence
  | record
  deriving Repr, DecidableEq

/-- The words for the value. -/
def Found.words : Found → String
  | null => "null"
  | boolean b => s!"boolean `{b}`"
  | number (.integer n) => s!"integer `{n}`"
  | number (.real negative magnitude) => s!"floating point `{realText negative magnitude}`"
  | text s => s!"string {quoted s}"
  | sequence => "sequence"
  | record => "map"

/-! ## Mismatches -/

/-- How a JSON value differs from what is expected. -/
inductive Mismatch
  | wrongKind (found : Found) (expected : String)
  | wrongLength (length : Nat) (record : String) (fields : Nat)
  | missingField (key : String)
  | repeatedField (key : String)
  | unknownField (key : String) (known : List String)
  | unknownVariant (name : String) (known : List String)
  deriving Repr, DecidableEq

/-- A name between backquotes. -/
def backquoted (s : String) : String :=
  "`" ++ s ++ "`"

/-- The names that would have been accepted. -/
def alternatives : List String → String
  | [] => "there are no fields"
  | [name] => "expected " ++ backquoted name
  | [first, second] => "expected " ++ backquoted first ++ " or " ++ backquoted second
  | names => "expected one of " ++ ", ".intercalate (names.map backquoted)

/-- How many elements the array form of a record has. -/
def elementCount (n : Nat) : String :=
  if n == 1 then "1 element" else toString n ++ " elements"

/-- The text of the mismatch. -/
def Mismatch.message : Mismatch → String
  | wrongKind found expected => s!"invalid type: {found.words}, expected {expected}"
  | wrongLength length record fields =>
    s!"invalid length {length}, expected struct {record} with {elementCount fields}"
  | missingField key => s!"missing field {backquoted key}"
  | repeatedField key => s!"duplicate field {backquoted key}"
  | unknownField key known => s!"unknown field {backquoted key}, {alternatives known}"
  | unknownVariant name known => s!"unknown variant {backquoted name}, {alternatives known}"

/-- Why a text cannot be read. -/
inductive Fault
  | mismatch (cause : Mismatch)
  /-- The text is no JSON. -/
  | malformed
  /-- The text ends inside a value. -/
  | truncated
  deriving Repr, DecidableEq

end ValueBuilder.Json
