import Registrar.Metrics.Family

/-!
# Exposition of Metrics

The page that a monitoring system reads: for each metric its help, its kind and
its value, one line each, sorted by name.

## Main definitions

* `Snapshot`: The counters, and the state of the pool.
* `Snapshot.value`: The value of a metric.
* `Snapshot.exposition`: The page.
-/

namespace Registrar

/-- The counters, and the state of the pool: it holds one connection at most, which
    is idle when the page is written. -/
structure Snapshot where
  counters : Counters
  connected : Bool
  deriving DecidableEq, Repr

namespace Snapshot

/-- The greatest number of connections that the pool holds. -/
def maxConnections : Nat := 1

/-- The value of a metric. -/
def value (snapshot : Snapshot) : Metric → Nat
  | .counter .listings => snapshot.counters.listings
  | .counter .recordOperations => snapshot.counters.recordOperations
  | .counter .clientErrors => snapshot.counters.clientErrors
  | .counter .serverErrors => snapshot.counters.serverErrors
  | .poolSize | .poolIdle => if snapshot.connected then 1 else 0
  | .poolMax => maxConnections

/-- The lines of a metric. -/
def lines (snapshot : Snapshot) (metric : Metric) : String :=
  "# HELP " ++ metric.name ++ " " ++ metric.help ++ "\n" ++
    "# TYPE " ++ metric.name ++ " " ++ metric.kind ++ "\n" ++
    metric.name ++ " " ++ toString (snapshot.value metric) ++ "\n"

/-- All metrics, sorted by name. -/
def families : List Metric :=
  (Sorted.ofList (Metric.all.map fun metric => (metric.name, metric))).entries.map Prod.snd

/-- The page. -/
def exposition (snapshot : Snapshot) : String :=
  String.join (families.map snapshot.lines)

end Snapshot

end Registrar
