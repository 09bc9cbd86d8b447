/-!
# Counters

Four counters tell how the service is doing: listings and single-record
operations that succeeded, and requests that failed through the client's fault
or through ours.

## Main definitions

* `Counter`: One of the four.
* `Counters`: Their values.
* `Counters.increment`: Count one more.
-/

namespace Registrar

/-- One of the four counters. -/
inductive Counter
  | listings
  | recordOperations
  | clientErrors
  | serverErrors
  deriving DecidableEq, Repr

/-- The values of the counters. -/
structure Counters where
  listings : Nat
  recordOperations : Nat
  clientErrors : Nat
  serverErrors : Nat
  deriving DecidableEq, Repr, Inhabited

namespace Counters

/-- Nothing counted yet. -/
def zero : Counters := ⟨0, 0, 0, 0⟩

/-- Count one more. -/
def increment (counters : Counters) : Counter → Counters
  | .listings => { counters with listings := counters.listings + 1 }
  | .recordOperations => { counters with recordOperations := counters.recordOperations + 1 }
  | .clientErrors => { counters with clientErrors := counters.clientErrors + 1 }
  | .serverErrors => { counters with serverErrors := counters.serverErrors + 1 }

end Counters

end Registrar
