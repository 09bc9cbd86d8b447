import Registrar.Json.Decoder
import Registrar.Service.Error
import Registrar.Service.MediaType

/-!
# Bodies of Requests

A body is decoded if it is said to be JSON and is not too long. What follows the
first value is not looked at.

The answer to a body that is refused is a fixed text. If the reader refused it, the
reader's own words follow. How it puts them is its own affair, so they come with
the request.

## Main definitions

* `bodyLimit`: How long a body may be.
* `BodyProblem`: Why a body cannot be read.
* `Request.decodeBody`: What a body says.
-/

namespace Registrar

/-- How many octets a body may have. -/
def bodyLimit : Nat := 2097152

/-- Why a body cannot be read: it is not said to be JSON, it is too long, or it does not
    decode, which the reader may explain. -/
inductive BodyProblem
  | mediaType
  | tooLong
  | json (problem : Json.Problem) (objection : Option String)
  deriving DecidableEq, Repr

/-- A text, with an explanation after it if there is one. -/
def explained (text : String) : Option String → String
  | none => text
  | some explanation => s!"{text}: {explanation}"

/-- The wording of a problem. -/
def BodyProblem.message : BodyProblem → String
  | mediaType => "Expected request with `Content-Type: application/json`"
  | tooLong => "Failed to buffer the request body: length limit exceeded"
  | json .malformed objection =>
    explained "Failed to parse the request body as JSON" objection
  | json .mismatched objection =>
    explained "Failed to deserialize the JSON body into the target type" objection

/-- The error that a problem is. -/
def BodyProblem.error (problem : BodyProblem) : ServiceError :=
  .invalidBody problem.message

/-- What a body says. -/
def Request.decodeBody {α : Type} (request : Request) (decode : Json.Decoder α) :
    Except ServiceError α :=
  if request.contentType.any MediaType.isJson then
    -- The limit is on octets, and a body of just that many is still read.
    if bodyLimit < request.body.utf8ByteSize then .error BodyProblem.tooLong.error
    else (decode.runFirst request.body).mapError fun problem =>
      (BodyProblem.json problem request.objection).error
  else .error BodyProblem.mediaType.error

end Registrar
