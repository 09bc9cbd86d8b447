import Registrar.Json.Token

/-!
# JSON Trees

A tree is what a reader sees of a text from left to right, up to the place where
the text stops being JSON. An array or object that the text does not close keeps
what it held until then and says that it is open; a value that is missing or cut
off is `broken`. So a decoder that walks a tree in order meets the first problem
of the text first, be it a wrong shape or a break.

The tree is grown over the tokens with the open containers on a stack, one token
at a time. Depth costs no recursion here; decoders limit it where they descend.

## Main definitions

* `Tree`: A text as far as it can be read.
* `Tree.grow`: Read tokens into a tree, given where the reader stands.
* `Tree.read`: The tree of the first value of a text, and the tokens after it.
* `Tree.isWhole`: Whether nothing in the tree is broken or left open.
-/

namespace Registrar

namespace Json

/-- A JSON text as far as it can be read. -/
inductive Tree
  | broken
  | null
  | bool (value : Bool)
  | number (lexeme : NumberLexeme)
  | string (lexeme : StringLexeme)
  | array (items : List Tree) (closed : Bool)
  | object (members : List (StringLexeme × Tree)) (closed : Bool)
  deriving Repr, Inhabited

namespace Tree

/-- A container that is still being read, with what it holds so far, the latest
    first. A member waits for its value once its key has been read. -/
inductive Frame
  | array (items : List Tree)
  | object (members : List (StringLexeme × Tree))
  | member (members : List (StringLexeme × Tree)) (key : StringLexeme)

/-- Where the reader stands: before a value, just inside an array or an object,
    after a value of the innermost container, before a further key, or between a
    key and its value. -/
inductive Place
  | value
  | arrayStart
  | objectStart
  | afterValue
  | key
  | colon

/-- Put a finished value into the innermost container; with none open it is the
    whole. -/
def settle (tree : Tree) : List Frame → Tree ⊕ List Frame
  | [] => .inl tree
  | .array items :: stack => .inr (.array (tree :: items) :: stack)
  | .member members key :: stack => .inr (.object ((key, tree) :: members) :: stack)
  | .object members :: stack => .inr (.object members :: stack)

/-- Close a container, as the text does or because it breaks off inside. -/
def Frame.tree (closed : Bool) : Frame → Tree
  | .array items => Tree.array items.reverse closed
  | .object members => Tree.object members.reverse closed
  | .member members key => Tree.object ((key, Tree.broken) :: members).reverse closed

/-- The text breaks off: every open container stays open, and holds what was
    read. -/
def abandon (tree : Tree) : List Frame → Tree
  | [] => tree
  | .array items :: stack => abandon (.array (tree :: items).reverse false) stack
  | .member members key :: stack => abandon (.object ((key, tree) :: members).reverse false) stack
  | .object members :: stack => abandon (.object members.reverse false) stack

/-- The text breaks off where no value has begun. -/
def breakOff : Place → List Frame → Tree
  | .value, stack => abandon .broken stack
  | _, [] => .broken
  | _, frame :: stack => abandon (frame.tree false) stack

/-- A value without parts, as the token that is one. -/
def leaf? : Token → Option Tree
  | .null => some .null
  | .bool value => some (.bool value)
  | .number lexeme => some (.number lexeme)
  | .string lexeme => some (.string lexeme)
  | _ => none

/-- Read tokens into a tree. The tokens after the value are handed back. -/
def grow : Place → List Frame → List Token → Tree × List Token
  | place, stack, [] => (breakOff place stack, [])
  | place, stack, token :: rest =>
    let finish (tree : Tree) (stack : List Frame) : Tree × List Token :=
      match settle tree stack with
      | .inl whole => (whole, rest)
      | .inr stack => grow .afterValue stack rest
    let begin (stack : List Frame) : Tree × List Token :=
      match token, leaf? token with
      | .openArray, _ => grow .arrayStart (.array [] :: stack) rest
      | .openObject, _ => grow .objectStart (.object [] :: stack) rest
      | _, some tree => finish tree stack
      | _, none => (breakOff .value stack, rest)
    match place, token, stack with
    | .value, _, stack => begin stack
    | .arrayStart, .closeArray, frame :: stack => finish (frame.tree true) stack
    | .arrayStart, _, stack => begin stack
    | .objectStart, .closeObject, frame :: stack => finish (frame.tree true) stack
    | .objectStart, .string key, .object members :: stack =>
      grow .colon (.member members key :: stack) rest
    | .afterValue, .comma, .array items :: stack => grow .value (.array items :: stack) rest
    | .afterValue, .closeArray, .array items :: stack => finish (.array items.reverse true) stack
    | .afterValue, .comma, .object members :: stack => grow .key (.object members :: stack) rest
    | .afterValue, .closeObject, .object members :: stack =>
      finish (.object members.reverse true) stack
    | .key, .string key, .object members :: stack =>
      grow .colon (.member members key :: stack) rest
    | .colon, .colon, stack => grow .value stack rest
    | place, _, stack => (breakOff place stack, rest)

/-- The tree of the first value of a text, and the tokens after it. -/
def read (text : String) : Tree × List Token :=
  grow .value [] (Token.all text.toList)

mutual

/-- Whether nothing in a tree is broken or left open. Such a value can be passed
    over, whatever it holds. -/
def isWhole : Tree → Bool
  | broken => false
  | null | bool _ | number _ | string _ => true
  | array items closed => allWhole items && closed
  | object members closed => allMembersWhole members && closed

/-- Whether all items are whole. -/
def allWhole : List Tree → Bool
  | [] => true
  | item :: rest => item.isWhole && allWhole rest

/-- Whether all members are whole. -/
def allMembersWhole : List (StringLexeme × Tree) → Bool
  | [] => true
  | (_, value) :: rest => value.isWhole && allMembersWhole rest

end

end Tree

end Json

end Registrar
