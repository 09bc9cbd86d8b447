import Registrar.Json.Document
import Registrar.Text.Cut
import Registrar.Text.Percent

/-!
# Requests and Responses

A request has a method, a path, a query, and perhaps a body with its media type.
In a URI the query follows the first `?`, and what follows a `#` is not sent.

A response has a status, and a body unless it is empty. A listing also says how
many rows there are in all.

## Main definitions

* `Request`, `Request.ofUri`: A request.
* `Response`: A response.
-/

namespace Registrar

/-- A request. Its body is a text: a request whose body is not in UTF-8 is none of these. -/
structure Request where
  method : String
  path : List Char
  query : List Char
  contentType : Option String
  body : String
  /-- What the reader of JSON says of the body if it refuses it, in words of its own. -/
  objection : Option String
  deriving DecidableEq, Repr

namespace Request

/-- A request for a URI. What a reader would say of its body is left out. -/
def ofUri (method uri : String) (contentType : Option String) (body : String) : Request :=
  let sent := uri.toList.takeWhile (· ≠ '#')
  match Text.cutAt? '?' sent with
  | some (path, query) => ⟨method, path, query, contentType, body, none⟩
  | none => ⟨method, sent, [], contentType, body, none⟩

/-- The parameters in the query. -/
def params (request : Request) : List (String × String) :=
  Percent.formPairs request.query

/-- Whether only the head of the response is wanted. -/
def wantsHead (request : Request) : Bool := request.method = "HEAD"

/-- The method whose response is wanted. -/
def effectiveMethod (request : Request) : String :=
  if request.wantsHead then "GET" else request.method

end Request

/-- A response. -/
structure Response where
  status : Nat
  total : Option Int
  contentType : Option String
  body : String
  deriving DecidableEq, Repr

namespace Response

/-- The media type of documents. -/
def jsonType : String := "application/json"

/-- A response with a document. -/
def json (status : Nat) (document : Json.Document) : Response :=
  ⟨status, none, some jsonType, document.text⟩

/-- A response with nothing in it. -/
def empty (status : Nat) : Response :=
  ⟨status, none, none, ""⟩

/-- A response with a message. -/
def message (status : Nat) (text : String) : Response :=
  json status (.object [("message", .string text)])

/-- The head of a response. -/
def head (response : Response) : Response :=
  { response with body := "" }

end Response

end Registrar
