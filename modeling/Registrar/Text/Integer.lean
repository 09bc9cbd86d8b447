/-!
# Integers in Text

An integer is written as an optional sign and at least one ASCII digit, and
nothing else: no blanks, no separators, no digits of other scripts. Leading
zeros are fine. A reader also has a range, and a number outside it is refused
like any other text.

## Main definitions

* `digits?`: The number that a nonempty run of ASCII digits denotes.
* `signed?`: An integer with an optional sign.
* `unsigned?`: A number with an optional `+`; a `-` is refused, also before 0.
* `inInt64`: The range of record ids.
-/

namespace Registrar

namespace Text

/-- The number that a run of ASCII digits denotes, read on from `acc`. -/
def digitsFrom? (acc : Nat) : List Char → Option Nat
  | [] => some acc
  | c :: rest => if c.isDigit then digitsFrom? (acc * 10 + (c.toNat - 48)) rest else none

/-- The number that a nonempty run of ASCII digits denotes. -/
def digits? (text : List Char) : Option Nat :=
  if text.isEmpty then none else digitsFrom? 0 text

/-- An integer with an optional sign. -/
def signed? : List Char → Option Int
  | '-' :: rest => (digits? rest).map fun n => -(n : Int)
  | '+' :: rest => (digits? rest).map Int.ofNat
  | text => (digits? text).map Int.ofNat

/-- A number with an optional `+`. -/
def unsigned? : List Char → Option Nat
  | '+' :: rest => digits? rest
  | text => digits? text

/-- The least 64-bit integer. -/
def minInt64 : Int := -9223372036854775808

/-- The greatest 64-bit integer. -/
def maxInt64 : Int := 9223372036854775807

/-- Whether an integer fits in 64 bits, as record ids and page numbers do. -/
def inInt64 (n : Int) : Bool :=
  minInt64 ≤ n && n ≤ maxInt64

/-- A 64-bit integer with an optional sign. -/
def int64? (text : List Char) : Option Int :=
  (signed? text).filter inInt64

/-- An unsigned 64-bit integer with an optional `+`. -/
def natural64? (text : List Char) : Option Nat :=
  (unsigned? text).filter (· < Nat.pow 2 64)

end Text

end Registrar
