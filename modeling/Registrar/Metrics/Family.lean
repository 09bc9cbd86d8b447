import Registrar.Counters
import Registrar.Map.Sorted

/-!
# Metrics

What the service tells about itself: its four counters, and three gauges of the
connection pool. Each metric has a name and a line of help. A registry holds
metrics under their names, and refuses a name that it already has.

## Main definitions

* `Metric`: The seven metrics.
* `MetricsError`: Why metrics cannot be registered or shown.
* `Registry.register`: Add a metric to a registry.
* `Registry.setUp`: Add all metrics.
-/

namespace Registrar

/-- What the service tells about itself. -/
inductive Metric
  | counter (counter : Counter)
  | poolSize
  | poolIdle
  | poolMax
  deriving DecidableEq, Repr

namespace Metric

/-- All metrics, in the order in which they are registered. -/
def all : List Metric :=
  [counter .listings, counter .recordOperations, counter .clientErrors, counter .serverErrors,
   poolSize, poolIdle, poolMax]

/-- The name of a metric. -/
def name : Metric → String
  | counter .listings => "userapp_list_queries_total"
  | counter .recordOperations => "userapp_record_operations_total"
  | counter .clientErrors => "userapp_client_errors_total"
  | counter .serverErrors => "userapp_server_errors_total"
  | poolSize => "userapp_pool_size"
  | poolIdle => "userapp_pool_idle_count"
  | poolMax => "userapp_pool_max_connections"

/-- What a metric tells. -/
def help : Metric → String
  | counter .listings => "Total successful listings."
  | counter .recordOperations => "Total successful single-record operations."
  | counter .clientErrors => "Total requests rejected as the client's fault."
  | counter .serverErrors => "Total requests that failed on the server side."
  | poolSize => "The number of connections currently active. This includes idle connections."
  | poolIdle => "The number of connections active and idle (not in use)."
  | poolMax => "The maximum number of connections that this pool should maintain."

/-- Whether a metric only grows, or may also fall. -/
def kind : Metric → String
  | counter _ => "counter"
  | _ => "gauge"

end Metric

/-- Why metrics cannot be registered or shown. -/
inductive MetricsError
  | alreadyRegistered
  | other (reason : String)
  deriving DecidableEq, Repr

/-- The wording of an error. -/
def MetricsError.message : MetricsError → String
  | alreadyRegistered => "Duplicate metrics collector registration attempted"
  | other reason => s!"Error: {reason}"

/-- Metrics under their names. -/
abbrev Registry := Sorted Metric

namespace Registry

/-- Add a metric, unless there is one of its name. -/
def register (registry : Registry) (metric : Metric) : Except MetricsError Registry :=
  if registry.contains metric.name then .error .alreadyRegistered
  else .ok (registry.insert metric.name metric)

/-- Add all metrics, and start to count. -/
def setUp (registry : Registry) : Except MetricsError (Registry × Counters) := do
  let registry ← Metric.all.foldlM register registry
  pure (registry, Counters.zero)

end Registry

end Registrar
