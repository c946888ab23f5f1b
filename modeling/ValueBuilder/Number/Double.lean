/-!
# Double-precision numbers

The finite non-negative numbers of 53 significant bits, with exact arithmetic on natural numbers and
one rounding at the end of every operation: to the nearest number, and of two equally near ones to
the one with the even significand.
-/

namespace ValueBuilder

/-- The number `significand · 2 ^ exponent`. -/
structure Double where
  significand : Nat
  exponent : Int
  deriving Repr, DecidableEq

namespace Double

/-- One more than the largest significand: the 53rd power of two. -/
def significandBound : Nat := 0x20000000000000

/-- The least exponent, which zero has as well. -/
def leastExponent : Int := -1074

/-- The largest exponent of a finite number. -/
def greatestExponent : Int := 971

/-- Whether the number is zero. -/
def isZero (d : Double) : Bool :=
  d.significand == 0

/-- The quotient of two numbers, to the nearest integer; a half goes to the even neighbour. -/
def roundedQuotient (a b : Nat) : Nat :=
  let quotient := a / b
  let doubled := 2 * (a % b)
  if doubled > b || (doubled == b && quotient % 2 == 1) then quotient + 1 else quotient

/-- The ratio of two numbers in units of a power of two. -/
def inUnits (num den : Nat) (exponent : Int) : Nat × Nat :=
  (num <<< (-exponent).toNat, den <<< exponent.toNat)

/-- The exponent at which a positive ratio has 53 bits, or the least one. -/
def exponentOf (num den : Nat) : Int :=
  let guess := max leastExponent ((num.log2 : Int) - den.log2 - 53)
  let scaled := inUnits num den guess
  if scaled.1 / scaled.2 < significandBound then guess else guess + 1

/-- The number with a rounded significand, which may have grown by a bit; none when it would be
infinite. -/
def ofRounded? (significand : Nat) (exponent : Int) : Option Double :=
  let d : Double :=
    if significand < significandBound then ⟨significand, exponent⟩
    else ⟨significand / 2, exponent + 1⟩
  if d.exponent ≤ greatestExponent then some d else none

/-- The number nearest to a ratio; none when it would be infinite. -/
def ofRatio? (num den : Nat) : Option Double :=
  let exponent := if num == 0 then leastExponent else exponentOf num den
  let scaled := inUnits num den exponent
  ofRounded? (roundedQuotient scaled.1 scaled.2) exponent

/-- The number nearest to an integer. -/
def ofNat? (n : Nat) : Option Double :=
  ofRatio? n 1

/-- The rounded product. -/
def mul? (a b : Double) : Option Double :=
  let exponent := a.exponent + b.exponent
  ofRatio? ((a.significand * b.significand) <<< exponent.toNat) (1 <<< (-exponent).toNat)

/-- The rounded quotient. -/
def div? (a b : Double) : Option Double :=
  let exponent := a.exponent - b.exponent
  ofRatio? (a.significand <<< exponent.toNat) (b.significand <<< (-exponent).toNat)

/-- A power of ten. -/
def powerOfTen (n : Nat) : Nat :=
  Nat.pow 10 n

/-- The largest exponent of a power of ten that is a finite number. -/
def greatestPower : Nat := 308

/-- The number multiplied by a power of ten, with one rounding for the power and one for the
product. -/
def timesPower? (d : Double) (power : Nat) : Option Double :=
  if power ≤ greatestPower then do d.mul? (← ofNat? (powerOfTen power))
  else if d.isZero then some d
  else none

/-- The number divided by a power of ten.  One division goes as far as a finite power does. -/
def overPower? (d : Double) (power : Nat) : Option Double :=
  if power ≤ greatestPower then do d.div? (← ofNat? (powerOfTen power))
  else if d.isZero then some d
  else do
    let smaller ← d.div? (← ofNat? (powerOfTen greatestPower))
    smaller.overPower? (power - greatestPower)
termination_by power
decreasing_by
  have : greatestPower = 308 := rfl
  omega

/-- The number that a decimal significand and exponent give; none when it would be infinite. -/
def ofDecimal? (significand : Nat) (power : Int) : Option Double := do
  let d ← ofNat? significand
  if 0 ≤ power then d.timesPower? power.toNat else d.overPower? (-power).toNat

end Double

end ValueBuilder
