import Registrar.Json.Decoder
import Registrar.Settings.DatabaseUrl

/-!
# The Connection Pool

How many connections the server may hold and for how long, in seconds. The
settings can be read from JSON; a field that is missing has its default.

A lazy pool opens a connection when one is first needed, so it can be made
without a server. Only the URL is looked at, and the pool is empty.

## Main definitions

* `PoolSettings`: The settings.
* `PoolSettings.decode`: Read them.
* `Pool.lazy?`: A pool that has not connected yet.
-/

namespace Registrar

open Json

/-- How many connections there may be, and how long to wait for one, to keep an
    idle one, and to keep any. -/
structure PoolSettings where
  maxConnections : Nat
  poolTimeout : Nat
  idleTimeout : Nat
  connectionLifetime : Nat
  deriving DecidableEq, Repr

namespace PoolSettings

/-- The settings that hold unless others are given. -/
def standard : PoolSettings := ⟨50, 600, 180, 600⟩

/-- Whether nothing differs from the defaults. -/
def isStandard (settings : PoolSettings) : Bool := settings = standard

/-- The fields, in their order. Connections are counted in 32 bits, seconds in
    64. -/
def fields : List (Decoder.Field Nat) :=
  [⟨"maxConnections", Decoder.naturalBelow (Nat.pow 2 32), some standard.maxConnections⟩,
   ⟨"poolTimeout", Decoder.naturalBelow (Nat.pow 2 64), some standard.poolTimeout⟩,
   ⟨"idleTimeout", Decoder.naturalBelow (Nat.pow 2 64), some standard.idleTimeout⟩,
   ⟨"connectionLifetime", Decoder.naturalBelow (Nat.pow 2 64), some standard.connectionLifetime⟩]

/-- Settings from their fields. -/
def ofFields : List Nat → Except Problem PoolSettings
  | [connections, pool, idle, lifetime] => .ok ⟨connections, pool, idle, lifetime⟩
  | _ => .error .mismatched

/-- Read settings. -/
def decode : Decoder PoolSettings := fun room tree => do
  let found ← Decoder.record fields room tree
  ofFields found

/-- A number of the settings as a document. -/
def number (n : Nat) : Document := Document.ofInt n

/-- Settings as a document. -/
def document (settings : PoolSettings) : Document :=
  .object
    [("maxConnections", number settings.maxConnections),
     ("poolTimeout", number settings.poolTimeout),
     ("idleTimeout", number settings.idleTimeout),
     ("connectionLifetime", number settings.connectionLifetime)]

end PoolSettings

/-- A pool of connections: its limits, and how many connections it holds. -/
structure Pool where
  maxConnections : Nat
  acquireTimeout : Nat
  idleTimeout : Nat
  maxLifetime : Nat
  size : Nat
  deriving DecidableEq, Repr

/-- A pool that has not connected yet, if the URL can be used. -/
def Pool.lazy? (settings : PoolSettings) (url : String) : Option Pool :=
  if DatabaseUrl.isUsable url then
    some ⟨settings.maxConnections, settings.poolTimeout, settings.idleTimeout,
      settings.connectionLifetime, 0⟩
  else none

end Registrar
