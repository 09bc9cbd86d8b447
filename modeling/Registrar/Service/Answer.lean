import Registrar.Service.Work
import Registrar.Session.Server

/-!
# Answers

The answer to a request, whatever becomes of it. A path that names nothing and a
method that its target does not support are answered with an empty body. Every
failed request is counted once, by the status of its answer. A request for the
head alone is answered like one for the whole, without the body.

The service keeps two things between requests: its counters, and whether it has a
connection.

## Main definitions

* `Request.respond`: The conversation that leads to the answer.
* `Request.answer`: The same, counted.
* `Service`: What is kept between requests.
* `Service.handle`: Answer a request.
-/

namespace Registrar

namespace Request

/-- The conversation that a request's work is, and the answer it ends in. -/
def converse (snapshot : Snapshot) (request : Request) (endpoint : Endpoint) :
    Session Response :=
  match endpoint.work snapshot request with
  | .error e => pure e.response
  | .ok work => do
    match ← work.run.run with
    | .ok response => pure response
    | .error e => pure (ServiceError.operation e).response

/-- The conversation that leads to the answer. -/
def respond (snapshot : Snapshot) (request : Request) : Session Response :=
  match Target.ofPath? request.path with
  | none => pure (.empty 404)
  | some target =>
    match target.endpoint? request.effectiveMethod with
    | none => pure (.empty 405)
    | some endpoint => request.converse snapshot endpoint

/-- Count an answer that reports a failure. -/
def tallyFailure (response : Response) : Session Unit :=
  if 400 ≤ response.status ∧ response.status < 500 then Session.tally .clientErrors
  else if 500 ≤ response.status ∧ response.status < 600 then Session.tally .serverErrors
  else pure ()

/-- The conversation that leads to the answer, with failures counted. -/
def answer (snapshot : Snapshot) (request : Request) : Session Response := do
  let response ← request.respond snapshot
  -- Whatever was sent is over by now, so the count is the last thing that happens.
  tallyFailure response
  pure (if request.wantsHead then response.head else response)

end Request

/-- What is kept between requests. -/
structure Service where
  counters : Counters
  connected : Bool
  deriving DecidableEq, Repr

namespace Service

/-- A service that has just been started. -/
def start : Service := ⟨Counters.zero, false⟩

/-- What the metrics tell about the service. -/
def snapshot (service : Service) : Snapshot :=
  ⟨service.counters, service.connected⟩

/-- What came of a request: the answer, what was sent to the database, and the
    service afterwards. -/
structure Outcome where
  response : Response
  sent : List Command
  service : Service

/-- Answer a request, given how the database treats it. -/
def handle (service : Service) (server : Server) (request : Request) : Outcome :=
  let talk : Talk := ⟨server, service.connected, [], service.counters⟩
  let (response, talk) := (request.answer service.snapshot).run talk
  ⟨response, talk.sent, ⟨talk.counters, talk.connected⟩⟩

end Service

end Registrar
