import Registrar.Text.Cut
import Registrar.Text.Utf8

/-!
# Percent-Encoded Text

A URL writes bytes as `%` and two hexadecimal digits. Decoding is done once and
never fails: a `%` that two digits do not follow stands for itself. In a query
string `+` is a space as well, and it is turned into one before the escapes are
read, so that an escaped plus stays a plus.

## Main definitions

* `Percent.decodeBytes`: Replace each escape by its byte.
* `Percent.decode?`: The decoded text, if its bytes are valid UTF-8.
* `Percent.formPairs`: The names and values of a query string.
-/

namespace Registrar

namespace Percent

/-- The value of a hexadecimal digit, given as a byte. -/
def hexDigit? (b : UInt8) : Option UInt8 :=
  if 0x30 ≤ b && b ≤ 0x39 then some (b - 0x30)
  else if 0x41 ≤ b && b ≤ 0x46 then some (b - 0x37)
  else if 0x61 ≤ b && b ≤ 0x66 then some (b - 0x57)
  else none

/-- The byte of an escape, from its two digits. -/
def escape? (high low : UInt8) : Option UInt8 := do
  let h ← hexDigit? high
  let l ← hexDigit? low
  pure (h * 16 + l)

/-- Replace each escape by its byte; other bytes stand for themselves. -/
def decodeBytes : List UInt8 → List UInt8
  | [] => []
  | [b] => [b]
  | [b, c] => [b, c]
  | b :: h :: l :: rest =>
    if b = 0x25 then
      match escape? h l with
      | some byte => byte :: decodeBytes rest
      | none => b :: decodeBytes (h :: l :: rest)
    else b :: decodeBytes (h :: l :: rest)

/-- The decoded text, if its bytes are valid UTF-8. -/
def decode? (text : List Char) : Option (List Char) :=
  Utf8.decode? (decodeBytes (Utf8.encode text))

/-- A name or a value of a query string: `+` is a space, escapes are bytes, and
    what is not UTF-8 is replaced. -/
def formDecode (text : List Char) : List Char :=
  Utf8.decodeLossy
    (decodeBytes ((Utf8.encode text).map fun b => if b = 0x2B then 0x20 else b))

/-- The names and values of a query string, in order. Empty pairs are passed
    over, and a pair without `=` has an empty value. -/
def formPairs (query : List Char) : List (String × String) :=
  ((Text.splitOn '&' query).filter fun pair => !pair.isEmpty).map fun pair =>
    match Text.cutAt? '=' pair with
    | some (name, value) => (String.ofList (formDecode name), String.ofList (formDecode value))
    | none => (String.ofList (formDecode pair), "")

end Percent

end Registrar
