import Registrar.Json.Tree

/-!
# Decoding JSON

A decoder walks a tree from left to right and stops at the first problem. There
are two: the text is malformed at that place, or it is well-formed and has the
wrong shape. A value that is only passed over need not have a meaning, so an
unknown member may hold a lone surrogate or an enormous number; a value that is
read must have one, also if it then turns out to have the wrong shape.

A record is written as an object or as an array of its fields in their order. In
an object the members come in any order and unknown ones are passed over; a
field that comes twice is wrong as soon as its second key has been read. In an
array fields may be cut off at the end if they have a fallback.

Arrays and objects nest to a limited depth where they are read. A decoder is
given the number of containers that it may still enter.

## Main definitions

* `Problem`: Why a text does not decode.
* `Decoder`: A reader of trees.
* `Decoder.record`: Named fields, from an object or an array.
* `Decoder.document`: Any value, as a document.
* `Decoder.run`: Decode a whole text.
* `Decoder.runFirst`: Decode the first value of a text.
-/

namespace Registrar

namespace Json

/-- Why a text does not decode: it is not JSON, or it is not of the shape that is
    wanted. -/
inductive Problem
  | malformed
  | mismatched
  deriving DecidableEq, Repr

/-- A reader of trees, given how many containers it may still enter. -/
abbrev Decoder (α : Type) := Nat → Tree → Except Problem α

/-- What is wrong with a value that is not of the wanted kind. A string or a
    number is read before it is refused. -/
def Tree.problem : Tree → Problem
  | .broken => .malformed
  | .string lexeme => if lexeme.value?.isSome then .mismatched else .malformed
  | .number lexeme => if lexeme.value?.isSome then .mismatched else .malformed
  | _ => .mismatched

namespace Decoder

variable {α : Type}

/-- How many containers may be nested inside one another. -/
def maxDepth : Nat := 127

/-- Enter a container. -/
def enter (room : Nat) (inside : Nat → Except Problem α) : Except Problem α :=
  match room with
  | 0 => .error .malformed
  | room + 1 => inside room

/-- Insist that a container has been closed. -/
def closing (closed : Bool) (value : α) : Except Problem α :=
  if closed then .ok value else .error .malformed

/-- The text that a string lexeme denotes. -/
def lexemeText (lexeme : StringLexeme) : Except Problem String :=
  match lexeme.value? with
  | some s => .ok s
  | none => .error .malformed

/-- A string. -/
def text : Decoder String := fun _ tree =>
  match tree with
  | .string lexeme => lexemeText lexeme
  | tree => .error tree.problem

/-- A truth value. -/
def flag : Decoder Bool := fun _ tree =>
  match tree with
  | .bool value => .ok value
  | tree => .error tree.problem

/-- An integer in a range, written without fraction and exponent. -/
def integer (least greatest : Int) : Decoder Int := fun _ tree =>
  match tree with
  | .number lexeme =>
    match lexeme.value? with
    | none => .error .malformed
    | some (.integer n) => if least ≤ n ∧ n ≤ greatest then .ok n else .error .mismatched
    | some (.real _) => .error .mismatched
  | tree => .error tree.problem

/-- A signed 64-bit integer. -/
def int64 : Decoder Int :=
  integer (-9223372036854775808) 9223372036854775807

/-- A natural number below a bound. -/
def naturalBelow (bound : Nat) : Decoder Nat := fun room tree =>
  (integer 0 ((bound : Int) - 1) room tree).map Int.toNat

/-- A value, or `null`. -/
def nullable (decode : Decoder α) : Decoder (Option α) := fun room tree =>
  match tree with
  | .null => .ok none
  | tree => (decode room tree).map some

/-- Change what a decoder hands back. -/
def map {β : Type} (f : α → β) (decode : Decoder α) : Decoder β := fun room tree =>
  (decode room tree).map f

/-- One of several words, each standing for a value. A word may also be written
    as the only key of an object with the value `null`. Anything but a string or
    an object counts as malformed. -/
def oneOf (words : List (String × α)) : Decoder α := fun room tree =>
  let find (lexeme : StringLexeme) : Except Problem α := do
    let word ← lexemeText lexeme
    match words.lookup word with
    | some value => .ok value
    | none => .error .mismatched
  match tree with
  | .string lexeme => find lexeme
  | .object members closed =>
    enter room fun _ =>
      match members with
      | [] => .error .malformed
      | (key, payload) :: rest => do
        let value ← find key
        match payload with
        | .null => if rest.isEmpty then closing closed value else .error .malformed
        | payload => .error payload.problem
  | _ => .error .malformed

/-- Decode the items of an array in order. -/
def items (decode : Decoder α) (room : Nat) : List Tree → Except Problem (List α)
  | [] => .ok []
  | item :: rest => do
    let value ← decode room item
    let values ← items decode room rest
    pure (value :: values)

/-- An array of values of one kind. -/
def list (decode : Decoder α) : Decoder (List α) := fun room tree =>
  match tree with
  | .array trees closed =>
    enter room fun room => do
      let values ← items decode room trees
      closing closed values
  | tree => .error tree.problem

/-- Decode the members of an object in order. -/
def entries (decode : Decoder α) (room : Nat) :
    List (StringLexeme × Tree) → Except Problem (List (String × α))
  | [] => .ok []
  | (key, tree) :: rest => do
    let name ← lexemeText key
    let value ← decode room tree
    let values ← entries decode room rest
    pure ((name, value) :: values)

/-- An object with values of one kind, as its members in the order of the text. -/
def object (decode : Decoder α) : Decoder (List (String × α)) := fun room tree =>
  match tree with
  | .object members closed =>
    enter room fun room => do
      let values ← entries decode room members
      closing closed values
  | tree => .error tree.problem

/-- A field of a record. A field with a fallback may be missing. -/
structure Field (α : Type) where
  name : String
  decode : Decoder α
  fallback : Option α

/-- The value of a field that is missing. -/
def Field.missing (field : Field α) : Except Problem α :=
  match field.fallback with
  | some value => .ok value
  | none => .error .mismatched

/-- Read the members of an object into the fields of a record, onto those found
    before. -/
def fieldsFound (fields : List (Field α)) (room : Nat) :
    List (StringLexeme × Tree) → List (String × α) → Except Problem (List (String × α))
  | [], found => .ok found
  | (key, tree) :: rest, found => do
    let name ← lexemeText key
    match fields.find? fun field => field.name = name with
    | none => if tree.isWhole then fieldsFound fields room rest found else .error .malformed
    | some field =>
      if (found.lookup name).isSome then .error .mismatched
      else do
        let value ← field.decode room tree
        fieldsFound fields room rest (found ++ [(name, value)])

/-- Every field in its order, found or by its fallback. -/
def complete (found : List (String × α)) : List (Field α) → Except Problem (List α)
  | [] => .ok []
  | field :: rest => do
    let value ← match found.lookup field.name with
      | some value => .ok value
      | none => field.missing
    let values ← complete found rest
    pure (value :: values)

/-- Read the items of an array as the fields of a record in their order. -/
def fieldsInOrder (closed : Bool) (room : Nat) :
    List (Field α) → List Tree → Except Problem (List α)
  | [], [] => closing closed []
  | [], _ :: _ => .error .malformed
  | field :: fields, tree :: trees => do
    let value ← field.decode room tree
    let values ← fieldsInOrder closed room fields trees
    pure (value :: values)
  | field :: fields, [] =>
    if closed then do
      let value ← field.missing
      let values ← fieldsInOrder closed room fields []
      pure (value :: values)
    else .error .malformed

/-- Named fields, from an object or from an array, in the order of the fields. -/
def record (fields : List (Field α)) : Decoder (List α) := fun room tree =>
  match tree with
  | .object members closed =>
    enter room fun room => do
      let found ← fieldsFound fields room members []
      let found ← closing closed found
      complete found fields
  | .array trees closed => enter room fun room => fieldsInOrder closed room fields trees
  | tree => .error tree.problem

mutual

/-- Any value, as a document. Of members with one name the last one stays. -/
def documentIn (room : Nat) : Tree → Except Problem Document
  | .broken => .error .malformed
  | .null => .ok .null
  | .bool value => .ok (.bool value)
  | .number lexeme =>
    match lexeme.value? with
    | some n => .ok (.number n)
    | none => .error .malformed
  | .string lexeme => (lexemeText lexeme).map .string
  | .array trees closed =>
    match room with
    | 0 => .error .malformed
    | room + 1 => do
      let values ← documentItems room trees
      closing closed (.array values)
  | .object members closed =>
    match room with
    | 0 => .error .malformed
    | room + 1 => do
      let values ← documentMembers room members
      closing closed (Document.ofMembers values)

/-- The items of an array, as documents. -/
def documentItems (room : Nat) : List Tree → Except Problem (List Document)
  | [] => .ok []
  | tree :: rest => do
    let value ← documentIn room tree
    let values ← documentItems room rest
    pure (value :: values)

/-- The members of an object, as documents. -/
def documentMembers (room : Nat) :
    List (StringLexeme × Tree) → Except Problem (List (String × Document))
  | [] => .ok []
  | (key, tree) :: rest => do
    let name ← lexemeText key
    let value ← documentIn room tree
    let values ← documentMembers room rest
    pure ((name, value) :: values)

end

/-- Any value, as a document. -/
def document : Decoder Document := documentIn

/-- Decode the first value of a text; what follows it is not looked at. -/
def runFirst (decode : Decoder α) (source : String) : Except Problem α :=
  decode maxDepth (Tree.read source).1

/-- Decode a text that holds one value and nothing after it. -/
def run (decode : Decoder α) (source : String) : Except Problem α := do
  let value ← runFirst decode source
  if (Tree.read source).2.isEmpty then .ok value else .error .malformed

end Decoder

/-- The document that a text denotes, if it is one. -/
def Document.parse? (source : String) : Option Document :=
  (Decoder.run Decoder.document source).toOption

end Json

end Registrar
