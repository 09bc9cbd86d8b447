import Registrar.Json.Binary64

/-!
# The Shortest Decimal

A binary64 number is written with the fewest digits that read back as it. The
numbers that round to a given one form an interval, with its ends if the
significand is even. For each count of digits the two decimals next to the
number are tried, and the first count at which one of them lies in the interval
gives the digits; of two, the nearer one.

The layout is positional where the decimal exponent is from -5 to 15, with at
least one digit on both sides of the point, and scientific elsewhere.

## Main definitions

* `Decimal`: A natural number times a power of ten.
* `Binary64.shortest`: The shortest decimal of a positive number.
* `Binary64.text`: The written form.
-/

namespace Registrar

namespace Json

/-- The decimal `digits * 10 ^ power`. -/
structure Decimal where
  digits : Nat
  power : Int

namespace Decimal

/-- The quotient that a decimal stands for. -/
def quotient (d : Decimal) : Nat × Nat :=
  if d.power < 0 then (d.digits, Nat.pow 10 d.power.natAbs)
  else (d.digits * Nat.pow 10 d.power.natAbs, 1)

end Decimal

/-- Compare two quotients of naturals. -/
def quotientLt (a b : Nat × Nat) : Bool :=
  a.1 * b.2 < b.1 * a.2

/-- The decimal exponent of a positive quotient: that of its first digit. -/
def decimalExponent (q : Nat × Nat) : Int :=
  if q.2 ≤ q.1 then ((Nat.repr (q.1 / q.2)).length : Int) - 1
  else
    let length := (Nat.repr (q.2 / q.1)).length
    if q.2 ≤ q.1 * Nat.pow 10 (length - 1) then 1 - (length : Int) else -(length : Int)

namespace Binary64

/-- The ends of the interval of numbers that round to a positive one. Below the
    first significand of an exponent the next number is half as far away. -/
def bounds (x : Binary64) : (Nat × Nat) × (Nat × Nat) :=
  let below := if x.significand = Nat.pow 2 52 && minExponent < x.exponent then 1 else 2
  let unit (n : Nat) : Nat × Nat :=
    magnitude ⟨false, n, x.exponent - 2⟩
  (unit (4 * x.significand - below), unit (4 * x.significand + 2))

/-- Whether a decimal reads back as a positive number. -/
def readsBack (x : Binary64) (d : Decimal) : Bool :=
  let ends := x.bounds
  let q := d.quotient
  if x.significand % 2 = 0 then !quotientLt q ends.1 && !quotientLt ends.2 q
  else quotientLt ends.1 q && quotientLt q ends.2

/-- Of the two decimals with `count` digits next to a positive number, the one
    that reads back as it; of two, the nearer, and the lower on a tie. -/
def decimalWith? (x : Binary64) (count : Nat) : Option Decimal :=
  let q := x.magnitude
  let power := decimalExponent q - (count : Int) + 1
  let scaledUp : Nat × Nat :=
    if power < 0 then (q.1 * Nat.pow 10 power.natAbs, q.2) else (q.1, q.2 * Nat.pow 10 power.natAbs)
  let low : Decimal := ⟨scaledUp.1 / scaledUp.2, power⟩
  let high : Decimal := ⟨scaledUp.1 / scaledUp.2 + 1, power⟩
  match x.readsBack low, x.readsBack high with
  | true, true => some (if scaledUp.2 < 2 * (scaledUp.1 % scaledUp.2) then high else low)
  | true, false => some low
  | false, true => some high
  | false, false => none

/-- The shortest decimal of a positive number. Seventeen digits always suffice. -/
def shortest (x : Binary64) : Decimal :=
  ((List.range 17).findSome? fun n => x.decimalWith? (n + 1)).getD ⟨0, 0⟩

/-- The decimal exponents that are written positionally lie between these, the
    lower one excluded: the exponent is that of the place after the first digit. -/
def positional : Int × Int := (-5, 16)

/-- A decimal in digits: positional for moderate exponents, else scientific. -/
def layout (d : Decimal) : String :=
  let digits := (Nat.repr d.digits).toList
  let point : Int := digits.length + d.power
  if 0 ≤ d.power && point ≤ positional.2 then
    String.ofList (digits ++ List.replicate d.power.natAbs '0') ++ ".0"
  else if 0 < point && point ≤ positional.2 then
    String.ofList (digits.take point.natAbs) ++ "." ++ String.ofList (digits.drop point.natAbs)
  else if positional.1 < point && point ≤ 0 then
    "0." ++ String.ofList (List.replicate point.natAbs '0' ++ digits)
  else
    String.ofList (digits.take 1) ++ (if digits.length = 1 then "" else ".")
      ++ String.ofList (digits.drop 1) ++ "e" ++ toString (point - 1)

/-- A decimal without zeros at its end. -/
def trimmed (digits : Nat) (power : Int) : Nat → Decimal
  | 0 => ⟨digits, power⟩
  | fuel + 1 =>
    if digits ≠ 0 ∧ digits % 10 = 0 then trimmed (digits / 10) (power + 1) fuel
    else ⟨digits, power⟩

/-- The written form of a number. -/
def text (x : Binary64) : String :=
  let sign := if x.negative then "-" else ""
  if x.significand = 0 then sign ++ "0.0"
  else
    let d := x.shortest
    sign ++ layout (trimmed d.digits d.power 17)

end Binary64

end Json

end Registrar
