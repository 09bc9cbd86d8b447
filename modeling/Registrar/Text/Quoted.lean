import Registrar.Text.Printable

/-!
# Quoted Text

A text as it is shown inside a message: between double quotes, with escapes for
the quote, the backslash and every character that cannot be shown by itself. A
few controls have short escapes, the others show their code point.

## Main definitions

* `Quoted.escape`: How a character is written.
* `Quoted.quote`: How a text is written.
-/

namespace Registrar

namespace Quoted

/-- The escape that shows a code point. -/
def codePoint (c : Char) : List Char :=
  ['\\', 'u', '\x7b'] ++ Nat.toDigits 16 c.toNat ++ ['\x7d']

/-- How a character is written between quotes. -/
def escape (c : Char) : List Char :=
  if c = '"' then ['\\', '"']
  else if c = '\\' then ['\\', '\\']
  else if c = '\x00' then ['\\', '0']
  else if c = '\t' then ['\\', 't']
  else if c = '\n' then ['\\', 'n']
  else if c = '\r' then ['\\', 'r']
  else if Text.isPrintable c then [c]
  else codePoint c

/-- A text between quotes. -/
def quote (text : List Char) : String :=
  "\"" ++ String.ofList (text.flatMap escape) ++ "\""

end Quoted

end Registrar
