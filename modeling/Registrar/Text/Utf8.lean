/-!
# UTF-8

Bytes are read as UTF-8 one character at a time by a small machine. Between
characters it looks at a first byte; inside one it knows how many bytes are
still owed and between which bounds the next one has to lie, which rules out
overlong forms, surrogates and numbers beyond Unicode. Bytes that cannot be
read fall into stretches: a stretch is the longest beginning of a character
that is there, or else one byte.

A reader that insists on valid text and one that puts U+FFFD in the place of
each stretch are the same machine with two readings of a stretch.

## Main definitions

* `Utf8.encode`: The bytes of a text.
* `Utf8.units`: Bytes as characters and unreadable stretches.
* `Utf8.decode?`: The text of bytes that hold no such stretch.
* `Utf8.decodeLossy`: The text with U+FFFD for each stretch.
-/

namespace Registrar

namespace Utf8

/-- The bytes of a text. -/
def encode (text : List Char) : List UInt8 :=
  text.flatMap String.utf8EncodeChar

/-- A character that has begun: bytes still owed after the next one, bounds of
    the next byte, and the number read so far. -/
structure Pending where
  owed : Nat
  low : UInt8
  high : UInt8
  value : Nat

/-- What a first byte begins: a whole character, a longer one, or nothing. -/
def begin? (b : UInt8) : Option (Char ⊕ Pending) :=
  if b < 0x80 then some (.inl (Char.ofNat b.toNat))
  else if b < 0xC2 then none
  else if b < 0xE0 then some (.inr ⟨0, 0x80, 0xBF, b.toNat - 0xC0⟩)
  else if b = 0xE0 then some (.inr ⟨1, 0xA0, 0xBF, 0⟩)
  else if b = 0xED then some (.inr ⟨1, 0x80, 0x9F, 0xD⟩)
  else if b < 0xF0 then some (.inr ⟨1, 0x80, 0xBF, b.toNat - 0xE0⟩)
  else if b = 0xF0 then some (.inr ⟨2, 0x90, 0xBF, 0⟩)
  else if b < 0xF4 then some (.inr ⟨2, 0x80, 0xBF, b.toNat - 0xF0⟩)
  else if b = 0xF4 then some (.inr ⟨2, 0x80, 0x8F, 4⟩)
  else none

/-- The units that a first byte gives, where `next` reads on. -/
def beginWith (b : UInt8) (next : Option Pending → List (Option Char)) : List (Option Char) :=
  match begin? b with
  | none => none :: next none
  | some (.inl c) => some c :: next none
  | some (.inr pending) => next (some pending)

/-- Bytes as characters and unreadable stretches (`none`), going on with the
    character that has begun, if one has. A byte that cannot continue it ends
    the stretch and is looked at as a first byte. -/
def unitsFrom : Option Pending → List UInt8 → List (Option Char)
  | none, [] => []
  | some _, [] => [none]
  | none, b :: rest => beginWith b fun pending => unitsFrom pending rest
  | some p, b :: rest =>
    if p.low ≤ b && b ≤ p.high then
      let value := p.value * 64 + (b.toNat - 0x80)
      match p.owed with
      | 0 => some (Char.ofNat value) :: unitsFrom none rest
      | owed + 1 => unitsFrom (some ⟨owed, 0x80, 0xBF, value⟩) rest
    else none :: beginWith b fun pending => unitsFrom pending rest

/-- Bytes as characters and unreadable stretches. -/
def units (bytes : List UInt8) : List (Option Char) :=
  unitsFrom none bytes

/-- The text of bytes that are valid throughout. -/
def decode? (bytes : List UInt8) : Option (List Char) :=
  (units bytes).mapM id

/-- The text of bytes, with U+FFFD for each unreadable stretch. -/
def decodeLossy (bytes : List UInt8) : List Char :=
  (units bytes).map fun unit => unit.getD '\uFFFD'

end Utf8

end Registrar
