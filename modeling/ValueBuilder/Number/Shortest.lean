import ValueBuilder.Number.Double

/-!
# Shortest decimal digits

The fewest decimal digits that round to a given number, and among those the nearest to it.  All
reals between the midpoints to the two neighbouring numbers round to it; the midpoints do as well
when the significand is even.
-/

namespace ValueBuilder

/-- The number `digits · 10 ^ exponent`. -/
structure Decimal where
  digits : Nat
  exponent : Int
  deriving Repr, DecidableEq

namespace Decimal

/-- The same number without zeros at the end of its digits. -/
def trimmed (d : Decimal) : Decimal :=
  if d.digits % 10 = 0 ∧ d.digits ≠ 0 then trimmed ⟨d.digits / 10, d.exponent + 1⟩ else d
termination_by d.digits
decreasing_by omega

/-- How many decimal digits a number has. -/
def width (n : Nat) : Nat :=
  (Nat.toDigits 10 n).length

end Decimal

namespace Double

/-- Quarters of the number's last bit, below and above it, up to the midpoints. -/
def quartersBelow (d : Double) : Nat :=
  if 2 * d.significand == significandBound && d.exponent != leastExponent then 1 else 2

/-- A ratio of the number to `10 ^ power`, in quarters of its last bit. -/
structure Grid where
  /-- What one quarter is multiplied by. -/
  quarter : Nat
  /-- What one step of the grid is multiplied by. -/
  step : Nat

/-- The grid of the multiples of `10 ^ power`. -/
def grid (d : Double) (power : Int) : Grid where
  quarter := powerOfTen (-power).toNat <<< (d.exponent - 2).toNat
  step := powerOfTen power.toNat <<< (2 - d.exponent).toNat

/-- Whether a point of the grid rounds to the number. -/
def reads (d : Double) (g : Grid) (n : Nat) : Bool :=
  let low := (4 * d.significand - d.quartersBelow) * g.quarter
  let high := (4 * d.significand + 2) * g.quarter
  let point := n * g.step
  if d.significand % 2 == 0 then low ≤ point && point ≤ high else low < point && point < high

/-- The point of a grid that rounds to the number and is nearest to it. -/
def nearest? (d : Double) (power : Int) : Option Decimal :=
  let g := d.grid power
  let value := 4 * d.significand * g.quarter
  let below := value / g.step
  let nearest := roundedQuotient value g.step
  let other := if nearest == below then below + 1 else below
  if d.reads g nearest then some ⟨nearest, power⟩
  else if d.reads g other then some ⟨other, power⟩
  else none

/-- The decimal exponent of the place above the number's first digit. -/
def magnitude (d : Double) : Int :=
  let num := d.significand <<< d.exponent.toNat
  let den := 1 <<< (-d.exponent).toNat
  let guess := (Decimal.width num : Int) - Decimal.width den
  if num * powerOfTen (-guess).toNat < den * powerOfTen guess.toNat then guess else guess + 1

/-- How many digits are always enough. -/
def digitLimit : Nat := 17

/-- The shortest decimal that rounds to the number. -/
def shortest (d : Double) : Decimal :=
  let found := (List.range digitLimit).findSome? fun (n : Nat) => d.nearest? (d.magnitude - (n + 1))
  (found.getD ⟨0, 0⟩).trimmed

end Double

end ValueBuilder
