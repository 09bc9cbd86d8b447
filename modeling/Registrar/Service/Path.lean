import Registrar.Service.Error
import Registrar.Text.Integer
import Registrar.Text.Percent
import Registrar.Text.Quoted

/-!
# Ids in a Path

The segments of a path that are ids: percent-decoded, then read as integers of 64
bits. All segments are decoded before the first one is read, and the first fault
is reported. If there is more than one id, a fault says which one it is.

## Main definitions

* `PathSegment`: A segment that is an id, with its name.
* `PathProblem`: Why the ids of a path cannot be read.
* `PathSegment.id`: The only id of a path.
* `PathSegment.ids`: The two ids of a path.
-/

namespace Registrar

/-- A segment that is an id, with the name that problems give it. -/
structure PathSegment where
  name : String
  text : List Char
  deriving DecidableEq, Repr

/-- Why the ids of a path cannot be read. -/
inductive PathProblem
  | notUtf8 (name : String)
  | notInteger (value : List Char)
  | notIntegerAt (index : Nat) (value : List Char)
  deriving DecidableEq, Repr

/-- The wording of a problem. -/
def PathProblem.message : PathProblem → String
  | notUtf8 name => s!"Invalid URL: Invalid UTF-8 in `{name}`"
  | notInteger value => "Invalid URL: Cannot parse `" ++ Quoted.quote value ++ "` to a `i64`"
  | notIntegerAt index value =>
    s!"Invalid URL: Cannot parse value at index {index} with value `" ++ Quoted.quote value ++
      "` to a `i64`"

/-- The error that a problem is. -/
def PathProblem.error (problem : PathProblem) : ServiceError :=
  .invalidPath problem.message

namespace PathSegment

/-- The decoded text of a segment. -/
def decode (segment : PathSegment) : Except ServiceError (List Char) :=
  match Percent.decode? segment.text with
  | some text => .ok text
  | none => .error (PathProblem.notUtf8 segment.name).error

/-- The integer that a text is. -/
def integer (text : List Char) (problem : PathProblem) : Except ServiceError Int :=
  match Text.int64? text with
  | some n => .ok n
  | none => .error problem.error

/-- The only id of a path. -/
def id (segment : PathSegment) : Except ServiceError Int := do
  let text ← segment.decode
  integer text (.notInteger text)

/-- The two ids of a path. -/
def ids (first second : PathSegment) : Except ServiceError (Int × Int) := do
  -- Both are decoded before the first is read.
  let firstText ← first.decode
  let secondText ← second.decode
  let firstId ← integer firstText (.notIntegerAt 0 firstText)
  let secondId ← integer secondText (.notIntegerAt 1 secondText)
  pure (firstId, secondId)

end PathSegment

end Registrar
