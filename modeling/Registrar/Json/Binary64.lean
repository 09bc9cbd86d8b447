/-!
# Binary64 Numbers

A number with a fraction or an exponent, or too long for 64 bits, is kept as a
binary64 number. The arithmetic is on integers: a finite number is a sign and
`significand * 2 ^ exponent`, a rounded result is the nearest such number to a
quotient of naturals with ties to the even one, and nothing here depends on the
machine's floating point.

Reading a decimal number converts its leading digits and scales them by one
power of ten, each step rounded. The last bit can therefore differ from the
nearest number; documents come back with the value this rule gives, so it is
the rule.

## Main definitions

* `Binary64`: A finite binary64 number.
* `Binary64.nearest?`: The nearest number to a quotient, if it is finite.
* `Binary64.ofDecimal?`: The number read for `digits * 10 ^ exponent`.
-/

namespace Registrar

namespace Json

/-- A finite binary64 number, `(-1)^negative * significand * 2 ^ exponent`. -/
structure Binary64 where
  negative : Bool
  significand : Nat
  exponent : Int
  deriving DecidableEq, Repr, Inhabited

namespace Binary64

/-- The least exponent, that of the subnormal numbers. -/
def minExponent : Int := -1074

/-- The greatest exponent of a finite number. -/
def maxExponent : Int := 971

/-- The quotient `numerator / denominator` without the factor `2 ^ exponent`. -/
def scaled (numerator denominator : Nat) (exponent : Int) : Nat × Nat :=
  if exponent < 0 then (numerator * Nat.pow 2 exponent.natAbs, denominator)
  else (numerator, denominator * Nat.pow 2 exponent.natAbs)

/-- The nearest natural to a quotient; a tie goes to the even one. -/
def roundHalfEven (numerator denominator : Nat) : Nat :=
  let quotient := numerator / denominator
  let twice := 2 * (numerator % denominator)
  if twice < denominator then quotient
  else if denominator < twice then quotient + 1
  else quotient + quotient % 2

/-- The exponent at which a positive quotient has 53 binary digits before the
    point, or the least exponent if that is greater. -/
def exponentFor (numerator denominator : Nat) : Int :=
  let guess : Int := (Nat.log2 numerator : Int) - Nat.log2 denominator - 53
  let parts := scaled numerator denominator guess
  let exponent := if parts.1 / parts.2 < Nat.pow 2 53 then guess else guess + 1
  max exponent minExponent

/-- The nearest number to a quotient of naturals, if it is finite. -/
def nearest? (numerator denominator : Nat) : Option Binary64 :=
  if numerator = 0 then some ⟨false, 0, minExponent⟩
  else
    let exponent := exponentFor numerator denominator
    let parts := scaled numerator denominator exponent
    let rounded := roundHalfEven parts.1 parts.2
    let result : Binary64 :=
      if rounded = Nat.pow 2 53 then ⟨false, Nat.pow 2 52, exponent + 1⟩
      else ⟨false, rounded, exponent⟩
    if result.exponent ≤ maxExponent then some result else none

/-- The magnitude of a number as a quotient of naturals. -/
def magnitude (x : Binary64) : Nat × Nat :=
  if x.exponent < 0 then (x.significand, Nat.pow 2 x.exponent.natAbs)
  else (x.significand * Nat.pow 2 x.exponent.natAbs, 1)

/-- The rounded product of a magnitude and `10 ^ power`, where the power of ten
    is rounded first. -/
def scaleUp? (x : Binary64) (power : Nat) : Option Binary64 := do
  let ten ← nearest? (Nat.pow 10 power) 1
  nearest? (x.magnitude.1 * ten.magnitude.1) (x.magnitude.2 * ten.magnitude.2)

/-- The rounded quotient of a magnitude by `10 ^ power`, where the power of ten
    is rounded first. -/
def scaleDown? (x : Binary64) (power : Nat) : Option Binary64 := do
  let ten ← nearest? (Nat.pow 10 power) 1
  nearest? (x.magnitude.1 * ten.magnitude.2) (x.magnitude.2 * ten.magnitude.1)

/-- The greatest power of ten that scaling uses in one step. -/
def maxPower : Nat := 308

/-- Divide by a power of ten in steps of at most `10 ^ 308`. -/
def shrink? (x : Binary64) (power : Nat) : Option Binary64 :=
  if power ≤ maxPower then x.scaleDown? power
  else if x.significand = 0 then some x
  else do
    let y ← x.scaleDown? maxPower
    y.shrink? (power - maxPower)
termination_by power
decreasing_by simp only [maxPower] at *; omega

/-- The number read for `digits * 10 ^ exponent`, or nothing if it is too large. -/
def ofDecimal? (negative : Bool) (digits : Nat) (exponent : Int) : Option Binary64 := do
  let x ← nearest? digits 1
  let y ←
    if exponent < 0 then x.shrink? exponent.natAbs
    else if exponent.natAbs ≤ maxPower then x.scaleUp? exponent.natAbs
    else if digits = 0 then some x
    else none
  pure { y with negative := negative }

end Binary64

end Json

end Registrar
