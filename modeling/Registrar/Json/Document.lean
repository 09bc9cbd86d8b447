import Registrar.Json.Shortest
import Registrar.Map.Sorted

/-!
# JSON Documents

A document is a JSON value as the service keeps it: what a database cell holds,
what a write binds, what a response carries. Its compact text has no blanks, and
a string is written with the fewest escapes: the quote, the backslash and the
control characters below U+0020. Everything else stands for itself.

An object's members are written in the order in which they are listed. Objects
that were read, or built from a record, list them sorted by name.

## Main definitions

* `Json.Number`: An integer of 64 bits, or a binary64 number.
* `Document`: A JSON value.
* `Document.text`: Its compact text.
* `Document.ofMembers`: An object with sorted names, the last member of a name
  staying.
-/

namespace Registrar

namespace Json

/-- A number: an integer between the least signed and the greatest unsigned one
    of 64 bits, or a binary64 number. -/
inductive Number
  | integer (value : Int)
  | real (value : Binary64)
  deriving DecidableEq, Repr

/-- The written form of a number. -/
def Number.text : Number → String
  | .integer value => toString value
  | .real value => value.text

/-- A JSON value. -/
inductive Document
  | null
  | bool (value : Bool)
  | number (value : Number)
  | string (value : String)
  | array (items : List Document)
  | object (members : List (String × Document))
  deriving Repr, Inhabited

/-- A hexadecimal digit in lower case. -/
def hexDigit (n : Nat) : Char :=
  if n < 10 then Char.ofNat (48 + n) else Char.ofNat (87 + n)

/-- How a character is written inside a string. -/
def escapeChar (c : Char) : List Char :=
  if c = '"' then ['\\', '"']
  else if c = '\\' then ['\\', '\\']
  else if c.toNat < 0x20 then
    if c = '\x08' then ['\\', 'b']
    else if c = '\t' then ['\\', 't']
    else if c = '\n' then ['\\', 'n']
    else if c = '\x0c' then ['\\', 'f']
    else if c = '\r' then ['\\', 'r']
    else ['\\', 'u', '0', '0', hexDigit (c.toNat / 16), hexDigit (c.toNat % 16)]
  else [c]

/-- The written form of a string, with its quotes. -/
def quote (s : String) : String :=
  "\"" ++ String.ofList (s.toList.flatMap escapeChar) ++ "\""

namespace Document

mutual

/-- The compact text of a document. -/
def text : Document → String
  | null => "null"
  | bool true => "true"
  | bool false => "false"
  | number n => n.text
  | string s => quote s
  | array items => "[" ++ itemsText items ++ "]"
  | object members => "\x7b" ++ membersText members ++ "\x7d"

/-- The items of an array with commas between them. -/
def itemsText : List Document → String
  | [] => ""
  | [item] => item.text
  | item :: rest => item.text ++ "," ++ itemsText rest

/-- The members of an object with commas between them. -/
def membersText : List (String × Document) → String
  | [] => ""
  | [(name, value)] => quote name ++ ":" ++ value.text
  | (name, value) :: rest => quote name ++ ":" ++ value.text ++ "," ++ membersText rest

end

/-- An object with sorted names; the last member of a name stays. -/
def ofMembers (members : List (String × Document)) : Document :=
  object (Sorted.ofList members).entries

/-- An integer as a document. -/
def ofInt (n : Int) : Document :=
  number (.integer n)

/-- The member of an object under a name. -/
def member? (name : String) : Document → Option Document
  | object members => (members.find? fun m => m.1 = name).map Prod.snd
  | _ => none

/-- The 64-bit integer that a document is, if it is one. -/
def int64? : Document → Option Int
  | number (.integer n) => if n ≤ 9223372036854775807 then some n else none
  | _ => none

end Document

end Json

end Registrar
