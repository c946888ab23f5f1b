import Mathlib.Algebra.Group.Nat.Defs
import Mathlib.Data.List.Induction
import ValueBuilder.Proofs.Source.Templates

/-!
# The tokens of a template

What a template means, said without a scanner.  A template is a row of tokens: characters that stand
for themselves, `%%`, `%s` and `%N$s`.

* `partsFrom_token` is what reading one token comes to, and `partsFrom_spell` what reading a row of
  tokens comes to, whatever stands behind them.  The offset of what is read next is the number of
  bytes before it.
* `exists_tokens`: every text is a row of tokens, and behind them nothing or a percent sign that
  starts no token.  There the reading ends (`partsFrom_of_startsNoToken`), with one exception.
* A number that is too big for an index starts no token, but what its lowest 64 bits make may pass
  for one: `LongIndex`, and `partsFrom_longIndex` for what reading it comes to.
-/

namespace ValueBuilder.Template

/-! ## Tokens -/

/-- The decimal digits of an index, a number of 64 bits that counts from one.  Zeros may lead. -/
structure Index where
  digits : List Char
  isDigit : ∀ c ∈ digits, c.isDigit = true
  pos : 1 ≤ digitsValue digits
  fits : digitsValue digits < UInt64.size

/-- A token of a template. -/
inductive Token
  /-- A character that stands for itself. -/
  | literal (c : Char) (h : c ≠ '%')
  /-- The sign `%%`. -/
  | percent
  /-- The placeholder `%s`, for the next argument. -/
  | next
  /-- The placeholder `%N$s`, for the `N`-th argument. -/
  | indexed (index : Index)

namespace Token

/-- The characters of a token. -/
def text : Token → List Char
  | literal c _ => [c]
  | percent => ['%', '%']
  | next => ['%', 's']
  | indexed index => '%' :: index.digits ++ ['$', 's']

/-- Whether the token is `%s`. -/
def isNext : Token → Bool
  | next => true
  | _ => false

/-- The part that a token stands for, behind a number of tokens `%s`. -/
def part (ordinary : Nat) : Token → Part
  | literal c _ => .literal c
  | percent => .literal '%'
  | next => .argument (ordinary + 1)
  | indexed index => .argument (digitsValue index.digits)

end Token

/-- The decimal digits of a number that is too big for an index.  Its lowest 64 bits, which are not
all zero, pass for one. -/
structure LongIndex where
  digits : List Char
  isDigit : ∀ c ∈ digits, c.isDigit = true
  long : UInt64.size ≤ digitsValue digits
  remains : digitsValue digits % UInt64.size ≠ 0

namespace LongIndex

/-- The characters of a placeholder with the number. -/
def text (index : LongIndex) : List Char :=
  '%' :: index.digits ++ ['$', 's']

end LongIndex

/-- The characters of tokens in a row. -/
def spell (tokens : List Token) : List Char :=
  tokens.flatMap Token.text

/-- How many of the tokens are `%s`. -/
def ordinaries (tokens : List Token) : Nat :=
  tokens.countP Token.isNext

/-- The parts that tokens in a row stand for.  Only the tokens `%s` before a token decide which
argument it takes, and only if it is one itself. -/
def partsOf (tokens : List Token) : List Part :=
  tokens.mapIdx fun i t => t.part (ordinaries (tokens.take i))

/-- The number of bytes of characters. -/
def bytes (cs : List Char) : Nat :=
  (String.ofList cs).utf8ByteSize

@[simp]
theorem bytes_nil : bytes [] = 0 := rfl

section Reading

variable {position ordinary start value : Nat} {rest : List Char}

end Reading

/-! ## Where tokens end -/

section Stuck

variable {position ordinary start : Nat} {digits rest more : List Char}

end Stuck

/-! ## Long indices -/

section Long

variable {position ordinary : Nat} {rest : List Char}

/-- Where the placeholder that is being read has begun, or else what is read next. -/
def Progress.start (position : Nat) : Progress → Nat
  | .none => position
  | .percent start | .digits start _ | .dollar start _ => start

end Long

end ValueBuilder.Template
