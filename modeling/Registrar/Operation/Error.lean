import Registrar.QueryError
import Registrar.Session.Reply

/-!
# Errors of Operations

How a listing or a single-record operation fails, and how that is to be reported
to whoever asked. What the server rejects is the client's doing, most likely a
violated constraint. A fault on the way, or a result that cannot be read back,
is ours.

## Main definitions

* `OperationError`: How an operation fails.
* `OperationError.message`: Its wording.
* `OperationError.ofDatabase`: The error that a failed command becomes.
* `ErrorKind`, `OperationError.kind`: How it is reported.
-/

namespace Registrar

/-- How an operation fails. -/
inductive OperationError
  | query (error : QueryError)
  | notFound (what : String)
  | constraintViolation (message : String)
  | validationFailure (reason : String)
  | database (fault : Fault)
  | decode (reason : String)
  deriving DecidableEq, Repr

/-- How an error is reported. -/
inductive ErrorKind
  | parseFailure
  | invalidPagination
  | notFound
  | constraintViolation
  | validationFailure
  | internal
  deriving DecidableEq, Repr

namespace OperationError

/-- The wording of an error. -/
def message : OperationError → String
  | query error => error.message
  | notFound what => s!"{what} not found."
  | constraintViolation message =>
    s!"Database error occurred, likely due to violation of constraints: {message}"
  | validationFailure reason => s!"Data validation error: {reason}"
  | database fault => s!"Database error: {fault.message}"
  | decode reason => s!"Could not decode result: {reason}"

/-- The error that a failed command becomes. -/
def ofDatabase : DatabaseError → OperationError
  | .rejected message => constraintViolation message
  | .fault fault => database fault
  | .unreadable reason => decode s!"error occurred while decoding: {reason}"
  | .unreadableColumn column reason =>
    decode s!"error occurred while decoding column {column}: {reason}"

/-- How an error is reported. -/
def kind : OperationError → ErrorKind
  | query (.invalidPagination _) => .invalidPagination
  | query error => if error.isParseFailure then .parseFailure else .internal
  | notFound _ => .notFound
  | constraintViolation _ => .constraintViolation
  | validationFailure _ => .validationFailure
  | database _ | decode _ => .internal

end OperationError

end Registrar
