import Registrar.Metrics.Family
import Registrar.Operation.Error
import Registrar.Service.Message

/-!
# Errors of Requests

How a request fails, with which status that is answered, and what the answer
says. What went wrong on our side is not told: the answer is the same for every
such error.

## Main definitions

* `ServiceError`: How a request fails.
* `ServiceError.status`: The status of the answer.
* `ServiceError.response`: The answer.
-/

namespace Registrar

/-- How a request fails: in an operation, or because its body or its path cannot
    be read, or because the metrics cannot be shown. -/
inductive ServiceError
  | operation (error : OperationError)
  | invalidBody (reason : String)
  | invalidPath (reason : String)
  | metrics (error : MetricsError)
  deriving DecidableEq, Repr

/-- The status that reports an error of an operation. -/
def ErrorKind.status : ErrorKind → Nat
  | parseFailure | invalidPagination | constraintViolation => 400
  | notFound => 404
  | validationFailure => 422
  | internal => 500

namespace ServiceError

/-- The wording of an error. -/
def message : ServiceError → String
  | operation error => error.message
  | invalidBody reason => s!"Invalid request body: {reason}"
  | invalidPath reason => s!"Invalid path: {reason}"
  | metrics error => "Could not encode metrics: " ++ error.message

/-- The status of the answer. -/
def status : ServiceError → Nat
  | operation error => error.kind.status
  | invalidBody _ => 422
  | invalidPath _ => 400
  | metrics _ => 500

/-- What the answer says when the fault is ours. -/
def internalMessage : String := "Internal server error"

/-- The answer. -/
def response (error : ServiceError) : Response :=
  .message error.status (if 500 ≤ error.status then internalMessage else error.message)

end ServiceError

end Registrar
