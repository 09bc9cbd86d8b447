import Registrar.Json.Document

/-!
# Lexemes of JSON

The text of a string or a number is kept as written until someone asks for its
value, because asking can fail where skipping does not: an escape may name half
of a surrogate pair, and a number may be too large. A value that nobody reads
need only be well-formed.

## Main definitions

* `StringLexeme`: The inside of a string, character by character.
* `StringLexeme.value?`: The text it denotes, unless a surrogate stands alone.
* `NumberLexeme`: The digits of a number.
* `NumberLexeme.value?`: The number it denotes, unless that is too large.
-/

namespace Registrar

namespace Json

/-- A character of a string: itself, or a code unit written as `\u` and four
    hexadecimal digits. -/
inductive StringUnit
  | char (value : Char)
  | code (unit : Nat)
  deriving DecidableEq, Repr

/-- The inside of a string. -/
abbrev StringLexeme := List StringUnit

namespace StringLexeme

/-- Whether a code unit is the first half of a surrogate pair. -/
def isLead (unit : Nat) : Bool := 0xD800 ≤ unit && unit ≤ 0xDBFF

/-- Whether a code unit is the second half of a surrogate pair. -/
def isTrail (unit : Nat) : Bool := 0xDC00 ≤ unit && unit ≤ 0xDFFF

/-- The characters that a string denotes, unless half of a surrogate pair stands
    alone. -/
def chars? : StringLexeme → Option (List Char)
  | [] => some []
  | .char c :: rest => (chars? rest).map (c :: ·)
  | [.code unit] => if isLead unit || isTrail unit then none else some [Char.ofNat unit]
  | .code unit :: .code second :: rest =>
    if isTrail unit then none
    else if isLead unit then
      if isTrail second then
        (chars? rest).map (Char.ofNat ((unit - 0xD800) * 0x400 + (second - 0xDC00) + 0x10000) :: ·)
      else none
    else (chars? (.code second :: rest)).map (Char.ofNat unit :: ·)
  | .code unit :: .char c :: rest =>
    if isLead unit || isTrail unit then none
    else (chars? (.char c :: rest)).map (Char.ofNat unit :: ·)

/-- The text that a string denotes. -/
def value? (lexeme : StringLexeme) : Option String :=
  (chars? lexeme).map String.ofList

end StringLexeme

/-- A number as written. The fraction is empty if there is none, and digits are
    given by their values. -/
structure NumberLexeme where
  negative : Bool
  whole : List Nat
  fraction : List Nat
  exponent : Option Int
  deriving DecidableEq, Repr

namespace NumberLexeme

/-- Append digits to a number as long as it stays below `2 ^ 64`, and count
    them. The first digit that does not fit ends it. -/
def absorb (number : Nat) : List Nat → Nat × Nat
  | [] => (number, 0)
  | d :: rest =>
    if number * 10 + d < Nat.pow 2 64 then
      let result := absorb (number * 10 + d) rest
      (result.1, result.2 + 1)
    else (number, 0)

/-- The number that a lexeme denotes: an integer where it is written as one and
    fits 64 bits, else a binary64 number. A negative zero is not an integer. -/
def value? (lexeme : NumberLexeme) : Option Number :=
  let whole := absorb 0 lexeme.whole
  let dropped := lexeme.whole.length - whole.2
  if lexeme.fraction.isEmpty && lexeme.exponent.isNone && dropped = 0 &&
      (!lexeme.negative || (0 < whole.1 && whole.1 ≤ Nat.pow 2 63)) then
    some (.integer (if lexeme.negative then -(whole.1 : Int) else whole.1))
  else
    let all := absorb whole.1 lexeme.fraction
    let power : Int := (dropped : Int) - all.2 + lexeme.exponent.getD 0
    (Binary64.ofDecimal? lexeme.negative all.1 power).map .real

end NumberLexeme

end Json

end Registrar
