import Registrar.Text.Cut
import Registrar.Text.Integer

/-!
# IP Addresses

The address that the server listens at. An address of four bytes is written in
decimal, without leading zeros. One of eight groups is written in hexadecimal;
a run of zero groups may be left out where `::` stands, and the last two groups
may be written as four bytes.

Writing is canonical: lower case, no leading zeros, and `::` for the first of the
longest runs of at least two zero groups. An address that stands for one of four
bytes shows these.

## Main definitions

* `Address`: Four bytes, or eight groups.
* `Address.parse?`: The address that a text denotes.
* `Address.text`: The canonical form.
* `Address.endpoint`: An address with the number to listen at.
-/

namespace Registrar

/-- An IP address. -/
inductive Address
  | v4 (bytes : Vector UInt8 4)
  | v6 (groups : Vector UInt16 8)
  deriving DecidableEq, Repr

namespace Address

/-- A byte in decimal: one to three digits without a leading zero. -/
def byte? (text : List Char) : Option UInt8 :=
  if 3 < text.length ∨ (text.head? = some '0' ∧ 1 < text.length) then none
  else ((Text.digits? text).filter (· < 256)).map UInt8.ofNat

/-- Four bytes with dots between them. -/
def bytes? (text : List Char) : Option (Vector UInt8 4) :=
  match (Text.splitOn '.' text).mapM byte? with
  | some [a, b, c, d] => some #v[a, b, c, d]
  | _ => none

/-- The value of a hexadecimal digit. -/
def hexDigit? (c : Char) : Option Nat :=
  if c.isDigit then some (c.toNat - 48)
  else if 'a' ≤ c ∧ c ≤ 'f' then some (c.toNat - 87)
  else if 'A' ≤ c ∧ c ≤ 'F' then some (c.toNat - 55)
  else none

/-- A group in hexadecimal: one to four digits. -/
def group? (text : List Char) : Option UInt16 :=
  if text.isEmpty ∨ 4 < text.length then none
  else (text.mapM hexDigit?).map fun digits =>
    UInt16.ofNat (digits.foldl (fun value digit => value * 16 + digit) 0)

/-- The group that two bytes make up. -/
def groupOfBytes (high low : UInt8) : UInt16 :=
  high.toUInt16 * 256 + low.toUInt16

/-- The two groups that four bytes make up. -/
def pairOfGroups (bytes : Vector UInt8 4) : List UInt16 :=
  [groupOfBytes bytes[0] bytes[1], groupOfBytes bytes[2] bytes[3]]

/-- The last groups of an address, of which the last two may be written as four
    bytes. -/
def lastGroups? : List (List Char) → Option (List UInt16)
  | [] => some []
  | [part] =>
    match bytes? part with
    | some bytes => some (pairOfGroups bytes)
    | none => (group? part).map fun group => [group]
  | part :: rest => do
    let group ← group? part
    let groups ← lastGroups? rest
    pure (group :: groups)

/-- The parts before and after the first `::`, if there is one. -/
def cutAtGap? : List Char → Option (List Char × List Char)
  | ':' :: ':' :: rest => some ([], rest)
  | c :: rest => (cutAtGap? rest).map fun parts => (c :: parts.1, parts.2)
  | [] => none

/-- The parts between colons; an empty text has none. -/
def parts (text : List Char) : List (List Char) :=
  if text.isEmpty then [] else Text.splitOn ':' text

/-- An address of eight groups from a list of them. -/
def ofGroups? : List UInt16 → Option Address
  | [a, b, c, d, e, f, g, h] => some (v6 #v[a, b, c, d, e, f, g, h])
  | _ => none

/-- An address of eight groups. A gap stands for one zero group at least. -/
def groups? (text : List Char) : Option Address := do
  match cutAtGap? text with
  | none => do
    let groups ← lastGroups? (Text.splitOn ':' text)
    ofGroups? groups
  | some (front, back) => do
    let first ← (parts front).mapM group?
    let last ← lastGroups? (parts back)
    let shown := first.length + last.length
    -- With all eight groups shown there is nothing left for the gap to stand for.
    if 8 ≤ shown then none
    else ofGroups? (first ++ List.replicate (8 - shown) 0 ++ last)

/-- The address that a text denotes. -/
def parse? (text : String) : Option Address :=
  match bytes? text.toList with
  | some bytes => some (v4 bytes)
  | none => groups? text.toList

/-- Four bytes in decimal, with dots between them. -/
def bytesText (bytes : List UInt8) : String :=
  ".".intercalate (bytes.map fun byte => toString byte.toNat)

/-- Groups in hexadecimal, with colons between them. -/
def groupsText (groups : List UInt16) : String :=
  ":".intercalate (groups.map fun group => String.ofList (Nat.toDigits 16 group.toNat))

/-- How many zero groups a list begins with. -/
def leadingZeros (groups : List UInt16) : Nat :=
  (groups.takeWhile (· = 0)).length

/-- Where the first of the longest runs of zero groups begins, and its length. -/
def longestGap (groups : List UInt16) : Nat × Nat :=
  (List.range groups.length).foldl (fun best start =>
    let length := leadingZeros (groups.drop start)
    -- A run that is only as long as an earlier one does not replace it.
    if best.2 < length then (start, length) else best) (0, 0)

/-- The four bytes that an address of eight groups stands for: five zero groups
    and one of all ones come before them. -/
def mappedBytes? : List UInt16 → Option (List UInt8)
  | [0, 0, 0, 0, 0, 0xffff, high, low] =>
    some [(high / 256).toUInt8, high.toUInt8, (low / 256).toUInt8, low.toUInt8]
  | _ => none

/-- The canonical form. -/
def text : Address → String
  | v4 bytes => bytesText bytes.toList
  | v6 groups =>
    let groups := groups.toList
    match mappedBytes? groups with
    | some bytes => "::ffff:" ++ bytesText bytes
    | none =>
      let (start, length) := longestGap groups
      if 1 < length then
        groupsText (groups.take start) ++ "::" ++ groupsText (groups.drop (start + length))
      else groupsText groups

/-- An address with the number to listen at. -/
def endpoint (address : Address) (number : Nat) : String :=
  match address with
  | v4 _ => s!"{address.text}:{number}"
  | v6 _ => s!"[{address.text}]:{number}"

end Address

end Registrar
