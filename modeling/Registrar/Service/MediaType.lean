import Registrar.Text.Cut

/-!
# Media Types

Whether a body is said to be JSON. A media type is a type, a slash, a subtype, and
perhaps parameters; case does not matter. A subtype may end in a suffix after a
plus sign. JSON is `application/json` in its own right or as the suffix of
another one.

What cannot be read is not JSON, whatever it begins with, so the parameters have
to be in order as well.

## Main definitions

* `MediaType.isToken`: The characters of names.
* `MediaType.areParameters`: Whether parameters are in order.
* `MediaType.isJson`: Whether a media type is JSON.
-/

namespace Registrar

namespace MediaType

/-- Whether a character may occur in the names of a media type. -/
def isToken (c : Char) : Bool :=
  c.isAlphanum || c ∈ "!#$%&'*+-.^_`|~".toList

/-- Whether a character may occur between quotes. -/
def isQuotable (c : Char) : Bool :=
  31 < c.toNat && c.toNat < 127

/-- Where a reader of parameters stands: before a name, in a name, before, in, or
    behind a value. The first character between quotes is never their end. -/
inductive Place
  | start
  | name
  | valueStart
  | value
  | quotedStart
  | quoted
  | behindQuotes
  deriving DecidableEq, Repr

/-- Where the reader stands after one more character. -/
def Place.next (c : Char) : Place → Option Place
  | start => if c = ' ' then some start else if isToken c then some name else none
  | name => if c = '=' then some valueStart else if isToken c then some name else none
  | valueStart => if c = '"' then some quotedStart else if isToken c then some value else none
  | value => if c = ';' then some start else if isToken c then some value else none
  -- A quote right after the opening one is taken for text.
  | quotedStart => if isQuotable c then some quoted else none
  | quoted => if c = '"' then some behindQuotes else if isQuotable c then some quoted else none
  | behindQuotes => if c = ';' then some start else if c = ' ' then some behindQuotes else none

/-- Whether the parameters may end here. -/
def Place.isEnd : Place → Bool
  | start | valueStart | value | behindQuotes => true
  | name | quotedStart | quoted => false

/-- Whether parameters are in order. -/
def areParameters (text : List Char) : Bool :=
  (text.foldlM (fun place c => Place.next c place) Place.start).any Place.isEnd

/-- The part of a subtype before its suffix, and the suffix. A plus sign at the
    very beginning does not start one. -/
def cutSuffix (subtype : List Char) : List Char × Option (List Char) :=
  let suffix := (subtype.reverse.takeWhile (· ≠ '+')).reverse
  let front := subtype.take (subtype.length - suffix.length - 1)
  if suffix.length < subtype.length ∧ !front.isEmpty then (front, some suffix)
  else (subtype, none)

/-- The type, the subtype and the parameters of a media type. -/
def parts? (text : List Char) : Option (List Char × List Char × List Char) := do
  let (type, rest) ← Text.cutAt? '/' text
  let (subtype, parameters) := (Text.cutAt? ';' rest).getD (rest, [])
  if !type.isEmpty ∧ type.all isToken ∧ subtype.all isToken then
    pure (type, subtype, parameters)
  else none

/-- Whether a text is a given word, in any case. -/
def isWord (word : String) (text : List Char) : Bool :=
  text.map Char.toLower = word.toList

/-- Whether a media type is JSON. -/
def isJson (text : String) : Bool :=
  match parts? text.toList with
  | some (type, subtype, parameters) =>
    let (front, suffix) := cutSuffix subtype
    isWord "application" type && (isWord "json" front || suffix.any (isWord "json")) &&
      areParameters parameters
  | none => false

end MediaType

end Registrar
